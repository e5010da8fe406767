import Makaio.Turns.Manager

set_option autoImplicit false

/-!
# Slots, ledgers and admissions

What the calls in flight hold of the ledgers, apart from how they wait for storage and for each other:
an admitted message whose preparation is awaited, a lease, or a ledger check still to come.  The
operations of the manager act on this part of its state; the invariant is stated and kept here.

## Main definitions

* `Hold`, `Core` — the slot, the ledgers, and what calls hold.
* `Core.Slot` — the invariant of the slot and of what was observed.
* `Core.Holders` — the invariant of the admissions.
* `Core.Watched` — a routable turn with a closed ledger is about to be checked.

## Main results

* `Core.Sound.begin`, `activate`, `admitOwner`, `admitWaiter`, `dispatch`, `commit`,
  `commitOwner`, `rollback`, `rollbackOwner`, `record` — every operation keeps the invariant.
-/

namespace Makaio.Turns

open Foundations

/-! ### The part of the state -/

/-- What a call holds of a ledger. -/
inductive Hold
  /-- an admitted message that waits for the preparation of its turn -/
  | waiting (turnId messageId : String) (ready : Option ℕ)
  /-- a lease; the owner of the preparation has its promise -/
  | lease (turnId messageId : String) (preparation : Option ℕ)
  /-- a message was rolled back, and the ledger is checked next -/
  | checking (turnId messageId : String)

/-- What a call holds at a stage. -/
def Stage.hold : Stage → Option Hold
  | .awaitingPreparation request turnId ready => some (.waiting turnId request.messageId ready)
  | .leased turnId messageId preparation => some (.lease turnId messageId preparation)
  | .rollingBack turnId messageId none => some (.checking turnId messageId)
  | _ => none

/-- The stage at which a ledger is checked. -/
lemma Stage.rollingBack_of_hold {stage : Stage} {turnId messageId : String}
    (h : stage.hold = some (.checking turnId messageId)) :
    stage = .rollingBack turnId messageId none := by
  cases stage with
  | rollingBack turnId' messageId' setupFailure =>
    cases setupFailure with
    | none =>
      cases h
      rfl
    | some result => exact nomatch h
  | awaitingPreparation | leased | _ => exact nomatch h

/-- The message that a hold keeps pending. -/
def Hold.message : Hold → Option (String × String)
  | .waiting turnId messageId _ => some (turnId, messageId)
  | .lease turnId messageId _ => some (turnId, messageId)
  | .checking .. => none

/-- The slot, the ledgers with the preparations of their turns, what calls hold, and what has been
observed. -/
structure Core where
  active : Option String
  reservation : Option ℕ
  finalizing : Finset String
  pending : OrderedMap String ℕ
  prepared : Finset String
  outcomes : OrderedMap ℕ Bool
  turns : OrderedMap String Turn
  hold : ℕ → Option Hold
  nextCall : ℕ
  history : List Entry

/-- The part of a manager. -/
def SessionTurnManager.core (m : SessionTurnManager) : Core where
  active := m.turnSlots.activeTurn
  reservation := m.turnSlots.reservation
  finalizing := m.turnSlots.finalizingTurnIds
  pending := m.turnSlots.pendingPreparations
  prepared := m.turnSlots.preparedTurnIds
  outcomes := m.preparations
  turns := m.turns
  hold := fun call => (m.calls.get? call).bind Stage.hold
  nextCall := m.nextCall
  history := m.history

/-- A turn is routable: it was activated, and its finalization has not begun. -/
def Routable (history : List Entry) (turnId : String) : Prop :=
  .activated turnId ∈ history ∧ ∀ mode ledger, .began turnId mode ledger ∉ history

def LedgerClosed (ledger : Option Turn) : Prop := ∃ turn, ledger = some turn ∧ turn.isComplete = true

/-- The finalization of a turn began, and not with an open ledger by a direct completion. -/
def ClosedByLedger (history : List Entry) (turnId : String) : Prop :=
  ∃ mode ledger, .began turnId mode ledger ∈ history ∧ (mode = .normal → LedgerClosed ledger)

/-- What may be observed next: messages are committed into turns whose finalization did not begin, or
began with an open ledger; normal finalization begins with a closed ledger, or on request. -/
def Lawful (before : List Entry) : Entry → Prop
  | .committed turnId _ => ∀ mode ledger, .began turnId mode ledger ∈ before →
    mode = .normal ∧ ¬ LedgerClosed ledger
  | .began turnId .normal ledger => LedgerClosed ledger ∨ .requested turnId ∈ before
  | _ => True

/-- Everything that was observed was lawful. -/
def AllLawful (history : List Entry) : Prop :=
  ∀ before entry after, history = before ++ entry :: after → Lawful before entry

/-! ### Observations -/

variable {entry : Entry} {ledger : Option Turn} {mode : FinalizationMode}
variable {began : String}

section Histories

variable {history : List Entry} {turnId : String}

/-- One more observation. -/
lemma AllLawful.snoc (h : AllLawful history) (hentry : Lawful history entry) :
    AllLawful (history ++ [entry]) := by
  intro before entry' after heq
  rcases List.eq_nil_or_concat after with rfl | ⟨after, last, rfl⟩
  · obtain ⟨rfl, hlast⟩ := List.append_inj' heq rfl
    exact List.singleton_inj.mp hlast ▸ hentry
  · rw [List.concat_eq_append, ← List.cons_append, ← List.append_assoc] at heq
    obtain ⟨hinit, -⟩ := List.append_inj' heq rfl
    exact h before entry' after hinit

/-- The routable turns after a finalization began. -/
lemma routable_began :
    Routable (history ++ [.began began mode ledger]) turnId ↔
      Routable history turnId ∧ turnId ≠ began := by
  simp only [Routable, List.mem_append, List.mem_singleton, not_or]
  constructor
  · rintro ⟨hactivated, hbegan⟩
    refine ⟨⟨hactivated.resolve_right (by simp), fun mode ledger => (hbegan mode ledger).1⟩, ?_⟩
    rintro rfl
    exact (hbegan mode ledger).2 rfl
  · rintro ⟨⟨hactivated, hbegan⟩, hne⟩
    refine ⟨Or.inl hactivated, fun mode' ledger' => ⟨hbegan mode' ledger', fun heq => hne ?_⟩⟩
    exact (Entry.began.inj heq).1

/-- The routable turns after an activation. -/
lemma routable_activated {activated : String} :
    Routable (history ++ [.activated activated]) turnId ↔
      (.activated turnId ∈ history ∨ turnId = activated) ∧
        ∀ mode ledger, .began turnId mode ledger ∉ history := by
  simp [Routable]

end Histories

namespace Core

/-- Change what a call holds. -/
def setHold (c : Core) (call : ℕ) (hold : Option Hold) : Core :=
  { c with hold := Function.update c.hold call hold }

/-- Begin the finalization of the routable turn. -/
def begin (c : Core) (turnId : String) (mode : FinalizationMode) : Core :=
  if turnId ∈ c.finalizing ∨ c.active ≠ some turnId then c
  else { c with
    active := none
    prepared := c.prepared.erase turnId
    finalizing := insert turnId c.finalizing
    history := c.history ++ [.began turnId mode (c.turns.get? turnId)] }

/-! ### Invariants -/

/-- The slot and what was observed of it. -/
structure Slot (c : Core) : Prop where
  /-- a reserved slot has no routable turn -/
  reserved : c.reservation ≠ none → c.active = none
  routable : ∀ turnId, Routable c.history turnId ↔ c.active = some turnId
  activated : ∀ turnId, .activated turnId ∈ c.history ↔ ∃ turn, c.turns.get? turnId = some turn
  began : ∀ turnId mode ledger, .began turnId mode ledger ∈ c.history →
    .activated turnId ∈ c.history
  finalizing : ∀ turnId ∈ c.finalizing, .activated turnId ∈ c.history ∧ c.active ≠ some turnId
  lawful : AllLawful c.history

/-- A hold that has passed, or will pass, the preparation of a routable turn. -/
def Passes (c : Core) (turnId : String) : Hold → Prop
  | .waiting _ _ (some ready) => c.pending.get? turnId = some ready ∨
      (turnId ∈ c.prepared ∧ c.outcomes.get? ready = some true)
  | .waiting _ _ none => turnId ∈ c.prepared
  | .lease _ _ (some _) => True
  | .lease _ _ none => turnId ∈ c.prepared
  | .checking .. => True

/-- The admissions that calls hold. -/
structure Holders (c : Core) : Prop where
  wellFormed : ∀ turnId turn, c.turns.get? turnId = some turn → turn.WellFormed
  callFresh : ∀ call hold, c.hold call = some hold → call < c.nextCall
  /-- the promise of a pending preparation is new and not settled -/
  pendingFresh : ∀ turnId promise, c.pending.get? turnId = some promise →
    promise < c.nextCall ∧ c.outcomes.get? promise = none
  outcomeFresh : ∀ promise outcome, c.outcomes.get? promise = some outcome → promise < c.nextCall
  pendingUnique : ∀ turnId turnId' promise, c.pending.get? turnId = some promise →
    c.pending.get? turnId' = some promise → turnId = turnId'
  unprepared : ∀ turnId promise, c.pending.get? turnId = some promise → turnId ∉ c.prepared
  admitted : ∀ call hold turnId messageId, c.hold call = some hold →
    hold.message = some (turnId, messageId) →
      ∃ turn, c.turns.get? turnId = some turn ∧ messageId ∈ turn.pendingMessageAdmissions
  distinct : ∀ call call' hold hold' message, c.hold call = some hold → c.hold call' = some hold' →
    hold.message = some message → hold'.message = some message → call = call'
  owner : ∀ call turnId messageId promise,
    c.hold call = some (.lease turnId messageId (some promise)) →
      c.pending.get? turnId = some promise
  ownerUnique : ∀ call call' turnId messageId messageId' promise,
    c.hold call = some (.lease turnId messageId (some promise)) →
      c.hold call' = some (.lease turnId messageId' (some promise)) → call = call'
  /-- on a routable turn, nobody waits for a failed preparation or passes a pending one -/
  passes : ∀ turnId, c.active = some turnId → ∀ call hold messageId, c.hold call = some hold →
    hold.message = some (turnId, messageId) → c.Passes turnId hold
  /-- on a turn whose finalization began, everybody waits for a failed preparation -/
  closed : ∀ turnId, ClosedByLedger c.history turnId → ∀ call hold messageId,
    c.hold call = some hold → hold.message = some (turnId, messageId) →
      ∃ ready, hold = .waiting turnId messageId (some ready) ∧ c.outcomes.get? ready = some false

/-- A routable turn with a closed ledger is about to be checked. -/
def Watched (c : Core) : Prop :=
  ∀ turnId turn, c.active = some turnId → c.turns.get? turnId = some turn →
    turn.isComplete = true → ∃ call messageId, c.hold call = some (.checking turnId messageId)

/-- The invariant. -/
structure Sound (c : Core) : Prop where
  slot : c.Slot
  holders : c.Holders
  watched : c.Watched

/-! ### The slot -/

variable {reservation : ℕ} {agentIds : List String} {pending : OrderedMap String ℕ}

section SlotOperations

variable {c c' : Core} {turnId : String} {turn turn' : Turn}

/-- The slot while no turn becomes routable or begins finalization. -/
lemma Slot.frame (h : c.Slot) (hactive : c'.active = c.active) (hhistory : c'.history = c.history)
    (hturns : ∀ turnId, (∃ turn, c'.turns.get? turnId = some turn) ↔
      ∃ turn, c.turns.get? turnId = some turn)
    (hfinalizing : c'.finalizing ⊆ c.finalizing)
    (hreserved : c'.reservation ≠ none → c'.active = none) : c'.Slot where
  reserved := hreserved
  routable turnId := by rw [hhistory, hactive, h.routable]
  activated turnId := by rw [hhistory, h.activated, hturns]
  began turnId mode ledger := by
    rw [hhistory]
    exact h.began turnId mode ledger
  finalizing turnId hmem := by
    rw [hhistory, hactive]
    exact h.finalizing turnId (hfinalizing hmem)
  lawful := by
    rw [hhistory]
    exact h.lawful

/-- A turn that is stored stays stored. -/
lemma turns_set_iff {turns : OrderedMap String Turn} (hturn : turns.get? turnId = some turn)
    (other : String) : (∃ t, (turns.set turnId turn').get? other = some t) ↔
      ∃ t, turns.get? other = some t := by
  rw [OrderedMap.get?_set]
  split_ifs with heq
  · subst heq
    exact ⟨fun _ => ⟨turn, hturn⟩, fun _ => ⟨turn', rfl⟩⟩
  · exact Iff.rfl

/-- The slot of a routable turn is closed when its finalization begins. -/
lemma Slot.begin (h : c.Slot) (hledger : mode = .normal → c.active = some turnId →
      LedgerClosed (c.turns.get? turnId) ∨ .requested turnId ∈ c.history) :
    (c.begin turnId mode).Slot := by
  rw [Core.begin]
  split_ifs with hidle
  · exact h
  · rw [not_or, not_not] at hidle
    obtain ⟨hfinalizing, hactive⟩ := hidle
    have hroutable := (h.routable turnId).mpr hactive
    constructor
    · exact fun _ => rfl
    · intro other
      rw [routable_began, h.routable, hactive, Option.some.injEq]
      exact ⟨fun h => absurd h.1.symm h.2, fun hnone => by cases hnone⟩
    · intro other
      rw [List.mem_append, List.mem_singleton, h.activated]
      simp
    · intro other mode' ledger hmem
      refine List.mem_append_left _ ?_
      rcases List.mem_append.mp hmem with hmem | hmem
      · exact h.began other mode' ledger hmem
      · cases List.mem_singleton.mp hmem
        exact hroutable.1
    · intro other hmem
      refine ⟨List.mem_append_left _ ?_, by simp⟩
      rcases Finset.mem_insert.mp hmem with rfl | hmem
      · exact hroutable.1
      · exact (h.finalizing other hmem).1
    · refine h.lawful.snoc ?_
      cases mode with
      | normal => exact hledger rfl hactive
      | setup => exact trivial

/-- A reserved slot takes a new turn. -/
lemma Slot.activate (h : c.Slot) (hreservation : c.reservation = some reservation)
    (hnew : c.turns.get? turnId = none) :
    Slot { c with
      active := some turnId
      reservation := none
      turns := c.turns.set turnId turn
      history := c.history ++ [.activated turnId] } := by
  have hidle : c.active = none := h.reserved (by rw [hreservation]; exact nofun)
  have hunseen : .activated turnId ∉ c.history := by
    rw [h.activated, hnew]
    exact nofun
  constructor
  · exact fun hne => absurd rfl hne
  · intro other
    rw [routable_activated, Option.some.injEq]
    constructor
    · rintro ⟨hactivated | heq, hbegan⟩
      · have hactive := (h.routable other).mp ⟨hactivated, hbegan⟩
        rw [hidle] at hactive
        exact nomatch hactive
      · exact heq.symm
    · rintro rfl
      exact ⟨Or.inr rfl, fun mode ledger hmem => hunseen (h.began _ mode ledger hmem)⟩
  · intro other
    rw [List.mem_append, List.mem_singleton, h.activated, OrderedMap.get?_set]
    split_ifs with heq
    · subst heq
      exact ⟨fun _ => ⟨turn, rfl⟩, fun _ => Or.inr rfl⟩
    · simp [heq]
  · intro other mode ledger hmem
    refine List.mem_append_left _ (h.began other mode ledger ?_)
    exact (List.mem_append.mp hmem).resolve_right (by simp)
  · intro other hmem
    obtain ⟨hactivated, -⟩ := h.finalizing other hmem
    refine ⟨List.mem_append_left _ hactivated, fun heq => hunseen ?_⟩
    exact Option.some.inj heq ▸ hactivated
  · exact h.lawful.snoc trivial

/-- Something else is observed than an activation or a finalization. -/
lemma Slot.observe (h : c.Slot) (hactivated : ∀ turnId, .activated turnId ≠ entry)
    (hbegan : ∀ turnId mode ledger, .began turnId mode ledger ≠ entry) (hlawful : Lawful c.history entry) :
    Slot { c with history := c.history ++ [entry] } where
  reserved := h.reserved
  routable other := by
    rw [← h.routable]
    simp [Routable, hactivated, hbegan]
  activated other := by
    rw [← h.activated]
    simp [hactivated]
  began other mode ledger hmem := by
    refine List.mem_append_left _ (h.began other mode ledger ?_)
    exact (List.mem_append.mp hmem).resolve_right (by simp [hbegan])
  finalizing other hmem := by
    obtain ⟨hseen, hne⟩ := h.finalizing other hmem
    exact ⟨List.mem_append_left _ hseen, hne⟩
  lawful := h.lawful.snoc hlawful

end SlotOperations

/-! ### Admissions -/

variable {ready : ℕ}

section HolderOperations

variable {c c' : Core} {turnId messageId : String} {turn turn' : Turn} {call promise : ℕ}
  {hold hold' : Hold}
variable {new : Option Hold}

/-- What a call holds after one call changed. -/
lemma setHold_some {other : ℕ} (h : (c.setHold call new).hold other = some hold) :
    other = call ∧ new = some hold ∨ other ≠ call ∧ c.hold other = some hold := by
  dsimp only [setHold] at h
  rw [Function.update_apply] at h
  split_ifs at h with heq
  · exact Or.inl ⟨heq, h⟩
  · exact Or.inr ⟨heq, h⟩

/-- What at most one call holds is held by at most one call after one changed, if it takes nothing that another
holds. -/
lemma eq_of_setHold {P : Hold → Prop}
    (hunique : ∀ first second hold₁ hold₂, c.hold first = some hold₁ → c.hold second = some hold₂ →
      P hold₁ → P hold₂ → first = second)
    (hnew : ∀ hold, new = some hold → P hold → ∀ other hold', c.hold other = some hold' → ¬ P hold')
    {first second : ℕ} {hold₁ hold₂ : Hold} (hfirst : (c.setHold call new).hold first = some hold₁)
    (hsecond : (c.setHold call new).hold second = some hold₂) (h₁ : P hold₁) (h₂ : P hold₂) :
    first = second := by
  rcases setHold_some hfirst with ⟨rfl, heq₁⟩ | ⟨-, hkept⟩
  · rcases setHold_some hsecond with ⟨rfl, -⟩ | ⟨-, hsecond⟩
    · rfl
    · exact absurd h₂ (hnew hold₁ heq₁ h₁ second hold₂ hsecond)
  · rcases setHold_some hsecond with ⟨rfl, heq₂⟩ | ⟨-, hsecond⟩
    · exact absurd h₁ (hnew hold₂ heq₂ h₂ first hold₁ hkept)
    · exact hunique first second hold₁ hold₂ hkept hsecond h₁ h₂

/-- Nobody holds a message of a ledger that is closed or not stored. -/
lemma Holders.open_of_message (h : c.Holders) (hhold : c.hold call = some hold)
    (hmessage : hold.message = some (turnId, messageId)) :
    ∃ turn, c.turns.get? turnId = some turn ∧ turn.isComplete = false := by
  obtain ⟨turn, hturn, hpending⟩ := h.admitted call hold turnId messageId hhold hmessage
  exact ⟨turn, hturn, Turn.isComplete_of_pending hpending⟩

/-- The admissions while only the slot, the history and ledgers change, and no pending message is
lost. -/
lemma Holders.frame (h : c.Holders)
    (hactive : ∀ turnId, c'.active = some turnId →
      c.active = some turnId ∨ c.turns.get? turnId = none)
    (hclosed : ∀ turnId, ClosedByLedger c'.history turnId → ClosedByLedger c.history turnId)
    (hpending : c'.pending = c.pending) (hprepared : c'.prepared = c.prepared)
    (houtcomes : c'.outcomes = c.outcomes) (hhold : c'.hold = c.hold)
    (hnext : c.nextCall ≤ c'.nextCall)
    (hwell : ∀ turnId turn, c'.turns.get? turnId = some turn → turn.WellFormed)
    (hturns : ∀ turnId turn, c.turns.get? turnId = some turn →
      ∃ turn', c'.turns.get? turnId = some turn' ∧
        turn.pendingMessageAdmissions ⊆ turn'.pendingMessageAdmissions) : c'.Holders where
  wellFormed := hwell
  callFresh call hold hget := (h.callFresh call hold (hhold ▸ hget)).trans_le hnext
  pendingFresh turnId promise hget := by
    rw [houtcomes]
    exact ⟨(h.pendingFresh turnId promise (hpending ▸ hget)).1.trans_le hnext,
      (h.pendingFresh turnId promise (hpending ▸ hget)).2⟩
  outcomeFresh promise outcome hget :=
    (h.outcomeFresh promise outcome (houtcomes ▸ hget)).trans_le hnext
  pendingUnique := by
    rw [hpending]
    exact h.pendingUnique
  unprepared := by
    rw [hpending, hprepared]
    exact h.unprepared
  admitted call hold turnId messageId hget hmessage := by
    rw [hhold] at hget
    obtain ⟨turn, hturn, hmem⟩ := h.admitted call hold turnId messageId hget hmessage
    obtain ⟨turn', hturn', hsubset⟩ := hturns turnId turn hturn
    exact ⟨turn', hturn', hsubset hmem⟩
  distinct := by
    rw [hhold]
    exact h.distinct
  owner := by
    rw [hhold, hpending]
    exact h.owner
  ownerUnique := by
    rw [hhold]
    exact h.ownerUnique
  passes turnId hget call hold messageId hcall hmessage := by
    rw [hhold] at hcall
    have hpasses : c.Passes turnId hold := by
      rcases hactive turnId hget with hsame | hnew
      · exact h.passes turnId hsame call hold messageId hcall hmessage
      · obtain ⟨turn, hturn, -⟩ := h.open_of_message hcall hmessage
        exact nomatch hnew.symm.trans hturn
    unfold Passes at hpasses ⊢
    rw [hpending, hprepared, houtcomes]
    exact hpasses
  closed turnId hget call hold messageId hcall hmessage := by
    rw [hhold] at hcall
    rw [houtcomes]
    exact h.closed turnId (hclosed turnId hget) call hold messageId hcall hmessage

/-- Storing a well-formed ledger leaves all ledgers well-formed. -/
lemma Holders.wellFormed_set (h : c.Holders) (hwell : turn'.WellFormed) (other : String) (t : Turn)
    (hget : (c.turns.set turnId turn').get? other = some t) : t.WellFormed := by
  rw [OrderedMap.get?_set] at hget
  split_ifs at hget
  · exact Option.some.inj hget ▸ hwell
  · exact h.wellFormed other t hget

/-- The ledger of a turn keeps its pending messages. -/
lemma Holders.grow (h : c.Holders) (hturn : c.turns.get? turnId = some turn) (hwell : turn'.WellFormed)
    (hsubset : turn.pendingMessageAdmissions ⊆ turn'.pendingMessageAdmissions) :
    Holders { c with turns := c.turns.set turnId turn' } := by
  refine h.frame (fun _ hget => Or.inl hget) (fun _ => id) rfl rfl rfl rfl le_rfl
    (h.wellFormed_set hwell) fun other t hget => ?_
  rw [OrderedMap.get?_set]
  split_ifs with heq
  · subst heq
    cases hturn.symm.trans hget
    exact ⟨turn', rfl, hsubset⟩
  · exact ⟨t, hget, subset_rfl⟩

/-- What closed turns there are when a finalization begins. -/
lemma closedByLedger_began {history : List Entry}
    (h : ClosedByLedger (history ++ [.began began mode ledger]) turnId) :
    ClosedByLedger history turnId ∨
      turnId = began ∧ (mode = .normal → LedgerClosed ledger) := by
  obtain ⟨mode', ledger', hmem, hne⟩ := h
  rcases List.mem_append.mp hmem with hmem | hmem
  · exact Or.inl ⟨mode', ledger', hmem, hne⟩
  · cases List.mem_singleton.mp hmem
    exact Or.inr ⟨rfl, hne⟩

/-- The admissions when a normal finalization begins: with a closed ledger, nobody holds one. -/
lemma Holders.begin (h : c.Holders) : (c.begin turnId .normal).Holders := by
  rw [Core.begin]
  split_ifs with hidle
  · exact h
  · refine { h with
      unprepared := fun other promise hget hmem =>
        h.unprepared other promise hget (Finset.mem_of_mem_erase hmem)
      passes := by simp
      closed := fun other hclosed call hold messageId hhold hmessage => ?_ }
    rcases closedByLedger_began hclosed with hclosed | ⟨rfl, hledger⟩
    · exact h.closed other hclosed call hold messageId hhold hmessage
    · obtain ⟨turn, hturn, hcomplete⟩ := hledger rfl
      obtain ⟨turn', hturn', hopen⟩ := h.open_of_message hhold hmessage
      cases hturn.symm.trans hturn'
      cases hopen.symm.trans hcomplete

/-- Beginning a finalization leaves the pending preparations. -/
lemma begin_pending : (c.begin turnId mode).pending = c.pending := by
  rw [Core.begin]
  split_ifs <;> rfl

/-- The next promise is not pending yet. -/
lemma Holders.pending_ne_nextCall (h : c.Holders) (turnId : String) : c.pending.get? turnId ≠ some c.nextCall :=
  fun hget => absurd (h.pendingFresh turnId _ hget).1 (lt_irrefl _)

/-- Nobody holds a message before it is admitted. -/
lemma Holders.message_ne_of_admitMessage (h : c.Holders) (hturn : c.turns.get? turnId = some turn)
    (hadmitted : turn.admitMessage messageId agentIds = .ok turn') (hget : c.hold call = some hold) :
    hold.message ≠ some (turnId, messageId) := by
  intro hmessage
  obtain ⟨turn'', hturn'', hmem⟩ := h.admitted call hold turnId messageId hget hmessage
  cases hturn.symm.trans hturn''
  obtain ⟨targets, htargets⟩ := (h.wellFormed turnId turn hturn).pending messageId hmem
  cases (Turn.admitMessage_ok hadmitted).1.symm.trans htargets

/-- An active turn that is neither prepared nor being prepared has no admissions. -/
lemma Holders.message_ne_of_unprepared (h : c.Holders) (hactive : c.active = some turnId)
    (hfree : c.pending.get? turnId = none) (hunprepared : turnId ∉ c.prepared) (hget : c.hold call = some hold) :
    hold.message ≠ some (turnId, messageId) := by
  intro hmessage
  have hpasses := h.passes turnId hactive call hold messageId hget hmessage
  cases hold with
  | waiting _ _ ready =>
    cases ready with
    | some ready =>
      rcases hpasses with hready | ⟨hprepared, -⟩
      · cases hfree.symm.trans hready
      · exact hunprepared hprepared
    | none => exact hunprepared hpasses
  | lease turnId' m ready =>
    cases ready with
    | some ready =>
      obtain ⟨rfl, -⟩ := Prod.mk.inj (Option.some.inj hmessage)
      cases hfree.symm.trans (h.owner call _ m ready hget)
    | none => exact hunprepared hpasses
  | checking _ _ => cases hmessage

/-- A call that held nothing admits a message to the routable turn.  As the owner it makes the
preparation pending; as a waiter it passes the one there is. -/
lemma Holders.admit (h : c.Holders) (hslot : c.Slot) (hactive : c.active = some turnId)
    (hturn : c.turns.get? turnId = some turn) (hadmitted : turn.admitMessage messageId agentIds = .ok turn')
    (hcall : call < c.nextCall) (hnone : c.hold call = none)
    (hmessage : hold.message = some (turnId, messageId))
    (hcase : (∃ ready, hold = .waiting turnId messageId ready ∧ pending = c.pending ∧
        c.Passes turnId hold) ∨
      (hold = .lease turnId messageId (some c.nextCall) ∧ c.pending.get? turnId = none ∧
        turnId ∉ c.prepared ∧ pending = c.pending.set turnId c.nextCall)) :
    Holders (setHold { c with
      turns := c.turns.set turnId turn'
      pending
      nextCall := c.nextCall + 1 } call (some hold)) := by
  obtain ⟨-, -, hturn'⟩ := Turn.admitMessage_ok hadmitted
  have hroutable := (hslot.routable turnId).mpr hactive
  have hgrown := h.grow hturn ((h.wellFormed turnId turn hturn).admitMessage hadmitted)
    (hturn' ▸ Finset.subset_insert _ _)
  have hpending : ∀ other ready, pending.get? other = some ready →
      c.pending.get? other = some ready ∨ (other = turnId ∧ ready = c.nextCall ∧
        c.pending.get? turnId = none ∧ turnId ∉ c.prepared) := by
    intro other ready hget
    rcases hcase with ⟨-, -, rfl, -⟩ | ⟨-, hfree, hunprepared, rfl⟩
    · exact Or.inl hget
    · rw [OrderedMap.get?_set] at hget
      split_ifs at hget with heq
      · exact Or.inr ⟨heq, (Option.some.inj hget).symm, hfree, hunprepared⟩
      · exact Or.inl hget
  constructor
  · exact hgrown.wellFormed
  · intro other hold' hget
    rcases setHold_some hget with ⟨rfl, -⟩ | ⟨-, hget⟩
    · exact hcall.trans (Nat.lt_succ_self _)
    · exact (h.callFresh other hold' hget).trans (Nat.lt_succ_self _)
  · intro other ready hget
    rcases hpending other ready hget with hget | ⟨rfl, rfl, -⟩
    · exact ⟨(h.pendingFresh other ready hget).1.trans (Nat.lt_succ_self _),
        (h.pendingFresh other ready hget).2⟩
    · refine ⟨Nat.lt_succ_self _, ?_⟩
      cases houtcome : c.outcomes.get? c.nextCall with
      | none => exact houtcome
      | some outcome => exact absurd (h.outcomeFresh _ outcome houtcome) (lt_irrefl _)
  · intro ready outcome hget
    exact (h.outcomeFresh ready outcome hget).trans (Nat.lt_succ_self _)
  · intro first second ready hfirst hsecond
    rcases hpending first ready hfirst with hfirst | ⟨rfl, rfl, -⟩
    · rcases hpending second ready hsecond with hsecond | ⟨-, rfl, -⟩
      · exact h.pendingUnique first second ready hfirst hsecond
      · exact absurd hfirst (h.pending_ne_nextCall first)
    · rcases hpending second _ hsecond with hsecond | ⟨rfl, -⟩
      · exact absurd hsecond (h.pending_ne_nextCall second)
      · rfl
  · intro other ready hget
    rcases hpending other ready hget with hget | ⟨rfl, -, -, hunprepared⟩
    · exact h.unprepared other ready hget
    · exact hunprepared
  · intro other hold' turnId' messageId' hget hmessage'
    rcases setHold_some hget with ⟨rfl, heq⟩ | ⟨-, hget⟩
    · cases heq
      cases hmessage.symm.trans hmessage'
      refine ⟨turn', OrderedMap.get?_set_self _ _ _, ?_⟩
      rw [hturn']
      exact Finset.mem_insert_self _ _
    · exact hgrown.admitted other hold' turnId' messageId' hget hmessage'
  · intro first second hold₁ hold₂ message hfirst hsecond hmessage₁ hmessage₂
    refine eq_of_setHold (fun first second hold₁ hold₂ => h.distinct first second hold₁ hold₂ message) ?_
      hfirst hsecond hmessage₁ hmessage₂
    rintro hold' heq hmessage' other other' hget
    cases heq
    cases hmessage.symm.trans hmessage'
    exact h.message_ne_of_admitMessage hturn hadmitted hget
  · intro other turnId' messageId' ready hget
    rcases setHold_some hget with ⟨-, heq⟩ | ⟨-, hget⟩
    · rcases hcase with ⟨_, rfl, -⟩ | ⟨rfl, -, -, rfl⟩
      · cases heq
      · obtain ⟨rfl, -, hready⟩ := Hold.lease.inj (Option.some.inj heq)
        exact (OrderedMap.get?_set_self _ _ _).trans hready
    · have hget' := h.owner other turnId' messageId' ready hget
      rcases hcase with ⟨-, -, rfl, -⟩ | ⟨-, hfree, -, rfl⟩
      · exact hget'
      · refine (OrderedMap.get?_set_of_ne _ _ ?_).trans hget'
        rintro rfl
        cases hfree.symm.trans hget'
  · intro first second turnId' messageId₁ messageId₂ ready hfirst hsecond
    refine eq_of_setHold (P := fun hold => ∃ m, hold = .lease turnId' m (some ready)) ?_ ?_
      hfirst hsecond ⟨_, rfl⟩ ⟨_, rfl⟩
    · rintro first second _ _ hfirst hsecond ⟨m₁, rfl⟩ ⟨m₂, rfl⟩
      exact h.ownerUnique first second turnId' m₁ m₂ ready hfirst hsecond
    · -- nobody owns the next promise
      rintro _ heq ⟨m, rfl⟩ other _ hget ⟨m', rfl⟩
      have hready : ready = c.nextCall := by
        rcases hcase with ⟨_, rfl, -⟩ | ⟨rfl, -⟩
        · cases heq
        · obtain ⟨-, -, hready⟩ := Hold.lease.inj (Option.some.inj heq)
          exact (Option.some.inj hready).symm
      exact h.pending_ne_nextCall _ (hready ▸ h.owner other _ m' _ hget)
  · intro turnId' hactive' other hold' messageId' hget hmessage'
    cases hactive.symm.trans hactive'
    rcases hcase with ⟨ready, rfl, rfl, hpasses⟩ | ⟨rfl, hfree, hunprepared, rfl⟩
    · rcases setHold_some hget with ⟨-, heq⟩ | ⟨-, hget⟩
      · cases heq
        exact hpasses
      · exact h.passes turnId hactive other hold' messageId' hget hmessage'
    · rcases setHold_some hget with ⟨-, heq⟩ | ⟨-, hget⟩
      · cases heq
        exact trivial
      · exact absurd hmessage' (h.message_ne_of_unprepared hactive hfree hunprepared hget)
  · intro turnId' hclosed other hold' messageId' hget hmessage'
    rcases setHold_some hget with ⟨rfl, heq⟩ | ⟨-, hget⟩
    · cases heq
      cases hmessage.symm.trans hmessage'
      obtain ⟨mode, ledger, hbegan, -⟩ := hclosed
      exact absurd hbegan (hroutable.2 mode ledger)
    · exact h.closed turnId' hclosed other hold' messageId' hget hmessage'

/-- A call keeps its message as a waiter or a dispatched lease, or drops it. -/
lemma Holders.change (h : c.Holders) (hcall : new ≠ none → call < c.nextCall)
    (hmessage : ∀ hold message, new = some hold → hold.message = some message →
      ∃ old, c.hold call = some old ∧ old.message = some message)
    (howner : ∀ turnId messageId promise, new ≠ some (.lease turnId messageId (some promise)))
    (hpasses : ∀ turnId hold messageId, c.active = some turnId → new = some hold →
      hold.message = some (turnId, messageId) → c.Passes turnId hold)
    (hclosed : ∀ turnId hold messageId, ClosedByLedger c.history turnId → new = some hold →
      hold.message ≠ some (turnId, messageId)) : (c.setHold call new).Holders := by
  refine { h with
    callFresh := fun other hold hget => ?_
    admitted := fun other hold turnId messageId hget hmessage' => ?_
    distinct := fun first second hold₁ hold₂ message hfirst hsecond hmessage₁ hmessage₂ => ?_
    owner := fun other turnId messageId promise hget => ?_
    ownerUnique := fun first second turnId messageId₁ messageId₂ promise hfirst hsecond => ?_
    passes := fun turnId hactive other hold messageId hget hmessage' => ?_
    closed := fun turnId hclosed' other hold messageId hget hmessage' => ?_ }
  · rcases setHold_some hget with ⟨rfl, heq⟩ | ⟨-, hget⟩
    · exact hcall (by rw [heq]; exact nofun)
    · exact h.callFresh other hold hget
  · rcases setHold_some hget with ⟨rfl, heq⟩ | ⟨-, hget⟩
    · obtain ⟨old, hold', hmessage''⟩ := hmessage hold _ heq hmessage'
      exact h.admitted other old turnId messageId hold' hmessage''
    · exact h.admitted other hold turnId messageId hget hmessage'
  · have hof : ∀ {other hold}, (c.setHold call new).hold other = some hold →
        hold.message = some message → ∃ old, c.hold other = some old ∧ old.message = some message := by
      intro other hold hget hmessage'
      rcases setHold_some hget with ⟨rfl, heq⟩ | ⟨-, hget⟩
      · exact hmessage hold message heq hmessage'
      · exact ⟨hold, hget, hmessage'⟩
    obtain ⟨old₁, hold₁', hmessage₁'⟩ := hof hfirst hmessage₁
    obtain ⟨old₂, hold₂', hmessage₂'⟩ := hof hsecond hmessage₂
    exact h.distinct first second old₁ old₂ message hold₁' hold₂' hmessage₁' hmessage₂'
  · rcases setHold_some hget with ⟨-, heq⟩ | ⟨-, hget⟩
    · exact absurd heq (howner turnId messageId promise)
    · exact h.owner other turnId messageId promise hget
  · rcases setHold_some hfirst with ⟨-, heq⟩ | ⟨-, hfirst⟩
    · exact absurd heq (howner _ _ _)
    · rcases setHold_some hsecond with ⟨-, heq⟩ | ⟨-, hsecond⟩
      · exact absurd heq (howner _ _ _)
      · exact h.ownerUnique first second turnId messageId₁ messageId₂ promise hfirst hsecond
  · rcases setHold_some hget with ⟨-, heq⟩ | ⟨-, hget⟩
    · exact hpasses turnId hold messageId hactive heq hmessage'
    · exact h.passes turnId hactive other hold messageId hget hmessage'
  · rcases setHold_some hget with ⟨-, heq⟩ | ⟨-, hget⟩
    · exact absurd hmessage' (hclosed turnId hold messageId hclosed' heq)
    · exact h.closed turnId hclosed' other hold messageId hget hmessage'

/-- A call that holds no message of a ledger, or drops it. -/
lemma Holders.drop (h : c.Holders) (hcall : new ≠ none → call < c.nextCall)
    (hmessage : ∀ hold, new = some hold → hold.message = none) : (c.setHold call new).Holders := by
  refine h.change hcall ?_ ?_ ?_ ?_
  · intro hold message heq hmessage'
    exact nomatch (hmessage hold heq).symm.trans hmessage'
  · intro turnId messageId promise heq
    exact nomatch hmessage _ heq
  · intro turnId hold messageId _ heq hmessage'
    exact nomatch (hmessage hold heq).symm.trans hmessage'
  · intro turnId hold messageId _ heq hmessage'
    exact nomatch (hmessage hold heq).symm.trans hmessage'

/-- The ledger of a turn loses a message that nobody holds. -/
lemma Holders.setTurn (h : c.Holders) (hturn : c.turns.get? turnId = some turn)
    (hwell : turn'.WellFormed)
    (hkept : ∀ m ∈ turn.pendingMessageAdmissions, m ≠ messageId →
      m ∈ turn'.pendingMessageAdmissions)
    (hfree : ∀ call hold, c.hold call = some hold → hold.message ≠ some (turnId, messageId)) :
    Holders { c with turns := c.turns.set turnId turn' } := by
  refine { h with
    wellFormed := h.wellFormed_set hwell
    admitted := fun call hold other m hget hmessage => ?_ }
  obtain ⟨t, ht, hmem⟩ := h.admitted call hold other m hget hmessage
  rw [OrderedMap.get?_set]
  split_ifs with heq
  · subst heq
    cases hturn.symm.trans ht
    refine ⟨turn', rfl, hkept m hmem ?_⟩
    rintro rfl
    exact hfree call hold hget hmessage
  · exact ⟨t, ht, hmem⟩

/-- After a call dropped its message, nobody holds it. -/
lemma Holders.message_free (h : c.Holders) (hhold : c.hold call = some hold)
    (hmessage : hold.message = some (turnId, messageId))
    (hnew : ∀ hold, new = some hold → hold.message = none) :
    ∀ other hold', (c.setHold call new).hold other = some hold' →
      hold'.message ≠ some (turnId, messageId) := by
  intro other hold' hget hmessage'
  rcases setHold_some hget with ⟨-, heq⟩ | ⟨hne, hget⟩
  · exact nomatch (hnew hold' heq).symm.trans hmessage'
  · exact hne (h.distinct other call hold' hold _ hget hhold hmessage' hmessage)

/-- After the owner of a preparation dropped its message, no lease owns the preparation. -/
lemma Holders.owner_free (h : c.Holders)
    (hhold : c.hold call = some (.lease turnId messageId (some promise))) :
    ∀ other m promise', (c.setHold call none).hold other ≠ some (.lease turnId m (some promise')) := by
  intro other m promise' hget
  rcases setHold_some hget with ⟨-, heq⟩ | ⟨hne, hget⟩
  · exact nomatch heq
  · have hpending := h.owner call turnId messageId promise hhold
    obtain rfl := Option.some.inj ((h.owner other turnId m promise' hget).symm.trans hpending)
    exact hne (h.ownerUnique other call turnId m messageId promise' hget hhold)

section Preparation

variable (h : c.Holders) (hpending : c.pending.get? turnId = some promise)
  (hfree : ∀ call m promise', c.hold call ≠ some (.lease turnId m (some promise')))
include h hpending hfree

variable {outcome : Bool}

/-- A preparation that nobody owns settles; what is left to show are the admissions of routable turns
and of turns whose finalization began. -/
lemma Holders.settlePreparation {active : Option String} {finalizing prepared : Finset String}
    {history : List Entry} (hprepared : prepared ⊆ insert turnId c.prepared)
    (hpasses : ∀ other, active = some other → ∀ call hold messageId, c.hold call = some hold →
      hold.message = some (other, messageId) → Passes { c with
        pending := c.pending.delete turnId
        prepared
        outcomes := c.outcomes.set promise outcome } other hold)
    (hclosed : ∀ other, ClosedByLedger history other → ∀ call hold messageId,
      c.hold call = some hold → hold.message = some (other, messageId) →
        ∃ ready, hold = .waiting other messageId (some ready) ∧
          (c.outcomes.set promise outcome).get? ready = some false) : Holders { c with
      active
      finalizing
      pending := c.pending.delete turnId
      prepared
      outcomes := c.outcomes.set promise outcome
      history } := by
  have hpending' : ∀ {other ready}, (c.pending.delete turnId).get? other = some ready →
      other ≠ turnId ∧ c.pending.get? other = some ready := by
    intro other ready hget
    rw [OrderedMap.get?_delete] at hget
    split_ifs at hget with heq
    exact ⟨heq, hget⟩
  refine { h with
    pendingFresh := fun other ready hget => ?_
    outcomeFresh := fun ready outcome' hget => ?_
    pendingUnique := fun first second ready hfirst hsecond => ?_
    unprepared := fun other ready hget hmem => ?_
    owner := fun call other m ready hget => ?_
    passes := hpasses
    closed := hclosed }
  · obtain ⟨hne, hbefore⟩ := hpending' hget
    obtain ⟨hlt, hnone⟩ := h.pendingFresh other ready hbefore
    refine ⟨hlt, (OrderedMap.get?_set_of_ne _ _ ?_).trans hnone⟩
    rintro rfl
    exact hne (h.pendingUnique other turnId ready hbefore hpending)
  · rw [OrderedMap.get?_set] at hget
    split_ifs at hget with heq
    · exact heq ▸ (h.pendingFresh turnId promise hpending).1
    · exact h.outcomeFresh ready outcome' hget
  · exact h.pendingUnique first second ready (hpending' hfirst).2 (hpending' hsecond).2
  · obtain ⟨hne, hget⟩ := hpending' hget
    exact h.unprepared other ready hget ((Finset.mem_insert.mp (hprepared hmem)).resolve_left hne)
  · refine (OrderedMap.get?_delete_of_ne _ ?_).trans (h.owner call other m ready hget)
    rintro rfl
    exact hfree call m ready hget

omit hfree in
/-- A promise that settled before is not the one that settles. -/
lemma Holders.outcome_ne {outcome' : Bool} (hready : c.outcomes.get? ready = some outcome') :
    (c.outcomes.set promise outcome).get? ready = some outcome' := by
  refine (OrderedMap.get?_set_of_ne _ _ ?_).trans hready
  rintro rfl
  exact nomatch (h.pendingFresh turnId ready hpending).2.symm.trans hready

/-- A preparation completes: its waiters pass. -/
lemma Holders.resolve : Holders { c with
    pending := c.pending.delete turnId
    prepared := insert turnId c.prepared
    outcomes := c.outcomes.set promise true } := by
  refine h.settlePreparation hpending hfree subset_rfl ?_ ?_
  · intro other hactive call hold messageId hget hmessage
    have hpasses := h.passes other hactive call hold messageId hget hmessage
    match hold, hpasses with
    | .waiting _ _ (some ready), .inl hready =>
      by_cases heq : other = turnId
      · subst heq
        cases hready.symm.trans hpending
        exact Or.inr ⟨Finset.mem_insert_self _ _, OrderedMap.get?_set_self _ _ _⟩
      · exact Or.inl ((OrderedMap.get?_delete_of_ne _ heq).trans hready)
    | .waiting _ _ (some ready), .inr ⟨hprepared, hready⟩ =>
      exact Or.inr ⟨Finset.mem_insert_of_mem hprepared, h.outcome_ne hpending hready⟩
    | .waiting _ _ none, hprepared | .lease _ _ none, hprepared => exact Finset.mem_insert_of_mem hprepared
    | .lease _ _ (some _), _ | .checking _ _, _ => exact trivial
  · intro other hclosed call hold messageId hget hmessage
    obtain ⟨ready, rfl, hready⟩ := h.closed other hclosed call hold messageId hget hmessage
    exact ⟨ready, rfl, h.outcome_ne hpending hready⟩

/-- A preparation of a turn that is not routable fails. -/
lemma Holders.reject (hactive : c.active ≠ some turnId) : Holders { c with
    pending := c.pending.delete turnId
    outcomes := c.outcomes.set promise false } := by
  refine h.settlePreparation hpending hfree (Finset.subset_insert _ _) ?_ ?_
  · intro other hactive' call hold messageId hget hmessage
    have hne : other ≠ turnId := by
      rintro rfl
      exact hactive hactive'
    have hpasses := h.passes other hactive' call hold messageId hget hmessage
    match hold, hpasses with
    | .waiting _ _ (some ready), .inl hready =>
      exact Or.inl ((OrderedMap.get?_delete_of_ne _ hne).trans hready)
    | .waiting _ _ (some ready), .inr ⟨hprepared, hready⟩ =>
      exact Or.inr ⟨hprepared, h.outcome_ne hpending hready⟩
    | .waiting _ _ none, hprepared | .lease _ _ none, hprepared => exact hprepared
    | .lease _ _ (some _), _ | .checking _ _, _ => exact trivial
  · intro other hclosed call hold messageId hget hmessage
    obtain ⟨ready, rfl, hready⟩ := h.closed other hclosed call hold messageId hget hmessage
    exact ⟨ready, rfl, h.outcome_ne hpending hready⟩

/-- A preparation fails together with the setup of its routable turn: everybody else on the turn waits
for it. -/
lemma Holders.fail (hactive : c.active = some turnId) : Holders { c with
    active := none
    finalizing := insert turnId c.finalizing
    pending := c.pending.delete turnId
    prepared := c.prepared.erase turnId
    outcomes := c.outcomes.set promise false
    history := c.history ++ [.began turnId .setup ledger] } := by
  refine h.settlePreparation hpending hfree
    ((Finset.erase_subset _ _).trans (Finset.subset_insert _ _)) nofun ?_
  intro other hclosed call hold messageId hget hmessage
  rcases closedByLedger_began hclosed with hclosed | ⟨rfl, -⟩
  · obtain ⟨ready, rfl, hready⟩ := h.closed other hclosed call hold messageId hget hmessage
    exact ⟨ready, rfl, h.outcome_ne hpending hready⟩
  · have hunprepared := h.unprepared other promise hpending
    have hpasses := h.passes other hactive call hold messageId hget hmessage
    match hold, hpasses, hget with
    | .waiting _ _ (some ready), .inl hready, _ =>
      cases hmessage
      obtain rfl := Option.some.inj (hready.symm.trans hpending)
      exact ⟨ready, rfl, OrderedMap.get?_set_self _ _ _⟩
    | .waiting _ _ (some ready), .inr ⟨hprepared, _⟩, _ | .waiting _ _ none, hprepared, _
    | .lease _ _ none, hprepared, _ => exact absurd hprepared hunprepared
    | .lease turnId' m (some ready), _, hget =>
      obtain ⟨rfl, -⟩ := Prod.mk.inj (Option.some.inj hmessage)
      exact absurd hget (hfree call m ready)
    | .checking _ _, _, _ => exact nomatch hmessage

end Preparation

end HolderOperations

/-! ### Ledger checks -/

section Watching

variable {c : Core} {turnId messageId : String} {turn turn' : Turn} {call : ℕ} {new : Option Hold}

/-- The checks to come after a call changed that was not to check an open slot with a closed
ledger. -/
lemma Watched.change (h : c.Watched)
    (hcall : ∀ turnId messageId turn, c.hold call = some (.checking turnId messageId) →
      c.active = some turnId → c.turns.get? turnId = some turn → turn.isComplete = false) :
    (c.setHold call new).Watched := by
  intro turnId turn hactive hturn hcomplete
  obtain ⟨other, messageId, hother⟩ := h turnId turn hactive hturn hcomplete
  refine ⟨other, messageId, ?_⟩
  dsimp only [setHold]
  rw [Function.update_of_ne]
  · exact hother
  · rintro rfl
    exact nomatch (hcall turnId messageId turn hother hactive hturn).symm.trans hcomplete

/-- The checks to come after a ledger changed. -/
lemma Watched.setTurn (h : c.Watched)
    (hchecked : turn'.isComplete = true → c.active = some turnId →
      ∃ call messageId, c.hold call = some (.checking turnId messageId)) :
    Watched { c with turns := c.turns.set turnId turn' } := by
  intro other turn hactive hturn hcomplete
  rw [OrderedMap.get?_set] at hturn
  split_ifs at hturn with heq
  · subst heq
    cases hturn
    exact hchecked hcomplete hactive
  · exact h other turn hactive hturn hcomplete

end Watching

/-! ### Operations -/

section Operations

variable {c c' : Core} {turnId messageId : String} {turn turn' : Turn} {call promise : ℕ}

/-- Changes that concern neither the routable turn nor an admission. -/
theorem Sound.frame (h : c.Sound) (hactive : c'.active = c.active) (hhistory : c'.history = c.history)
    (hfinalizing : c'.finalizing ⊆ c.finalizing) (hturns : c'.turns = c.turns)
    (hpending : c'.pending = c.pending) (hprepared : c'.prepared = c.prepared)
    (houtcomes : c'.outcomes = c.outcomes) (hhold : c'.hold = c.hold)
    (hnext : c.nextCall ≤ c'.nextCall)
    (hreserved : c'.reservation ≠ none → c'.active = none) : c'.Sound where
  slot := h.slot.frame hactive hhistory (fun _ => by rw [hturns]) hfinalizing hreserved
  holders := by
    refine h.holders.frame (fun _ hget => Or.inl (hactive ▸ hget)) (fun _ => by rw [hhistory]; exact id)
      hpending hprepared houtcomes hhold hnext ?_ ?_
    · rw [hturns]
      exact h.holders.wellFormed
    · exact fun turnId turn hget => ⟨turn, hturns ▸ hget, subset_rfl⟩
  watched turnId turn := by
    rw [hactive, hturns, hhold]
    exact h.watched turnId turn

/-- The normal finalization of the routable turn begins: with a closed ledger, or on request. -/
theorem Sound.begin (h : c.Sound) (hledger : c.active = some turnId →
      LedgerClosed (c.turns.get? turnId) ∨ .requested turnId ∈ c.history) :
    (c.begin turnId .normal).Sound where
  slot := h.slot.begin fun _ => hledger
  holders := h.holders.begin
  watched := by
    rw [Core.begin]
    split_ifs with hidle
    · exact h.watched
    · intro _ _ hreservation
      cases hreservation

/-- A new turn takes the reserved slot. -/
theorem Sound.activate (h : c.Sound) (hreservation : c.reservation = some reservation)
    (hnew : c.turns.get? turnId = none) (hwell : turn.WellFormed) (hopen : turn.isComplete = false) :
    Sound { c with
      active := some turnId
      reservation := none
      turns := c.turns.set turnId turn
      history := c.history ++ [.activated turnId] } where
  slot := h.slot.activate hreservation hnew
  holders := by
    refine h.holders.frame (fun other hget => Or.inr ?_) (fun other hclosed => ?_) rfl rfl rfl rfl le_rfl
      (h.holders.wellFormed_set hwell) fun other t hget => ?_
    · exact Option.some.inj hget ▸ hnew
    · obtain ⟨mode, ledger, hmem, hne⟩ := hclosed
      exact ⟨mode, ledger, (List.mem_append.mp hmem).resolve_right (by simp), hne⟩
    · refine ⟨t, (OrderedMap.get?_set_of_ne _ _ ?_).trans hget, subset_rfl⟩
      rintro rfl
      exact nomatch hnew.symm.trans hget
  watched := by
    intro other t hactive hget hcomplete
    cases hactive
    cases (OrderedMap.get?_set_self _ _ _).symm.trans hget
    exact nomatch hopen.symm.trans hcomplete

/-- A message is admitted to the routable turn. -/
theorem Sound.admit {hold : Hold} (h : c.Sound) (hactive : c.active = some turnId)
    (hturn : c.turns.get? turnId = some turn) (hadmitted : turn.admitMessage messageId agentIds = .ok turn')
    (hcall : call < c.nextCall) (hnone : c.hold call = none)
    (hmessage : hold.message = some (turnId, messageId))
    (hcase : (∃ ready, hold = .waiting turnId messageId ready ∧ pending = c.pending ∧
        c.Passes turnId hold) ∨
      (hold = .lease turnId messageId (some c.nextCall) ∧ c.pending.get? turnId = none ∧
        turnId ∉ c.prepared ∧ pending = c.pending.set turnId c.nextCall)) :
    Sound (setHold { c with
      turns := c.turns.set turnId turn'
      pending
      nextCall := c.nextCall + 1 } call (some hold)) where
  slot := h.slot.frame rfl rfl (turns_set_iff hturn) subset_rfl h.slot.reserved
  holders := h.holders.admit h.slot hactive hturn hadmitted hcall hnone hmessage hcase
  watched := by
    have hopen : turn'.isComplete = false := by
      obtain ⟨-, -, rfl⟩ := Turn.admitMessage_ok hadmitted
      exact Turn.isComplete_of_pending (Finset.mem_insert_self _ _)
    have hset : Watched { c with turns := c.turns.set turnId turn' } :=
      h.watched.setTurn fun hcomplete => nomatch hopen.symm.trans hcomplete
    exact hset.change fun _ _ _ hhold => nomatch hnone.symm.trans hhold

/-- A waiter gets its lease once the turn is prepared. -/
theorem Sound.dispatch {ready : Option ℕ} (h : c.Sound)
    (hhold : c.hold call = some (.waiting turnId messageId ready))
    (hready : ∀ promise, ready = some promise → c.outcomes.get? promise = some true) :
    (c.setHold call (some (.lease turnId messageId none))).Sound where
  slot := h.slot.frame rfl rfl (fun _ => Iff.rfl) subset_rfl h.slot.reserved
  holders := by
    refine h.holders.change (fun _ => h.holders.callFresh call _ hhold) ?_ ?_ ?_ ?_
    · rintro hold message heq hmessage
      cases heq
      exact ⟨_, hhold, hmessage⟩
    · exact fun _ _ _ heq => nomatch heq
    · rintro other hold m hactive heq hmessage
      cases heq
      cases hmessage
      have hpasses := h.holders.passes turnId hactive call _ messageId hhold rfl
      match ready, hpasses with
      | none, hprepared => exact hprepared
      | some promise, .inl hpending =>
        exact nomatch (h.holders.pendingFresh turnId promise hpending).2.symm.trans (hready promise rfl)
      | some promise, .inr ⟨hprepared, _⟩ => exact hprepared
    · rintro other hold m hclosed heq hmessage
      cases heq
      cases hmessage
      obtain ⟨promise, heq, hrejected⟩ :=
        h.holders.closed turnId hclosed call _ messageId hhold rfl
      cases heq
      exact nomatch (hready promise rfl).symm.trans hrejected
  watched := h.watched.change fun _ _ _ hget => nomatch hhold.symm.trans hget

/-- The ledger of a turn after the call that held a message settled it. -/
lemma Holders.settleMessage {hold : Hold} {new : Option Hold} (h : c.Holders)
    (hhold : c.hold call = some hold) (hmessage : hold.message = some (turnId, messageId))
    (hnew : ∀ hold, new = some hold → hold.message = none)
    (hturn : c.turns.get? turnId = some turn) (hwell : turn'.WellFormed)
    (hkept : ∀ m ∈ turn.pendingMessageAdmissions, m ≠ messageId →
      m ∈ turn'.pendingMessageAdmissions) :
    Holders (setHold { c with turns := c.turns.set turnId turn' } call new) :=
  (h.drop (fun _ => h.callFresh call hold hhold) hnew).setTurn hturn hwell hkept
    (h.message_free hhold hmessage hnew)

/-- The message of a call is pending in the ledger of its turn. -/
lemma Sound.pending_of_hold {hold : Hold} (h : c.Sound) (hhold : c.hold call = some hold)
    (hmessage : hold.message = some (turnId, messageId))
    (hturn : c.turns.get? turnId = some turn) :
    turn.WellFormed ∧ messageId ∈ turn.pendingMessageAdmissions := by
  obtain ⟨turn', hturn', hmem⟩ := h.holders.admitted call hold turnId messageId hhold hmessage
  cases hturn.symm.trans hturn'
  exact ⟨h.holders.wellFormed turnId turn hturn, hmem⟩

variable {preparation : Option ℕ}

/-- A lease is held only on turns whose finalization did not begin by their ledger. -/
lemma Sound.not_closed_of_lease (h : c.Sound)
    (hhold : c.hold call = some (.lease turnId messageId preparation)) :
    ¬ ClosedByLedger c.history turnId := by
  intro hclosed
  obtain ⟨ready, heq, -⟩ := h.holders.closed turnId hclosed call _ messageId hhold rfl
  exact nomatch heq

/-- A waiter whose preparation failed waits on a turn that is not routable. -/
lemma Sound.not_active_of_rejected (h : c.Sound)
    (hhold : c.hold call = some (.waiting turnId messageId (some ready)))
    (hready : c.outcomes.get? ready = some false) : c.active ≠ some turnId := by
  intro hactive
  rcases h.holders.passes turnId hactive call _ messageId hhold rfl with hpending | ⟨-, hresolved⟩
  · exact nomatch (h.holders.pendingFresh turnId ready hpending).2.symm.trans hready
  · exact nomatch hresolved.symm.trans hready

/-- The slot does not depend on what calls hold. -/
lemma Slot.setHold {new : Option Hold} (h : c.Slot) : (c.setHold call new).Slot :=
  h.frame rfl rfl (fun _ => Iff.rfl) subset_rfl h.reserved

/-- The slot depends on which turns are stored. -/
lemma Slot.setTurn (h : c.Slot) (hturn : c.turns.get? turnId = some turn) :
    Slot { c with turns := c.turns.set turnId turn' } :=
  h.frame rfl rfl (turns_set_iff hturn) subset_rfl h.reserved

/-- The finalization of a routable turn begins. -/
lemma Slot.begin_active (h : c.Slot) (hactive : c.active = some turnId) :
    c.begin turnId mode = { c with
      active := none
      prepared := c.prepared.erase turnId
      finalizing := insert turnId c.finalizing
      history := c.history ++ [.began turnId mode (c.turns.get? turnId)] } := by
  rw [Core.begin, if_neg]
  rw [not_or, not_not]
  exact ⟨fun hmem => (h.finalizing turnId hmem).2 hactive, hactive⟩

/-- The finalization of another turn does not begin. -/
lemma begin_idle (hactive : c.active ≠ some turnId) :
    c.begin turnId mode = c := if_pos (Or.inr hactive)

/-- Observing something else than a finalization leaves the admissions. -/
lemma Holders.observe (h : c.Holders) (hentry : ∀ turnId mode ledger, .began turnId mode ledger ≠ entry) :
    Holders { c with history := c.history ++ [entry] } := by
  refine h.frame (fun _ hget => Or.inl hget) (fun other hclosed => ?_) rfl rfl rfl rfl le_rfl
    h.wellFormed fun other t hget => ⟨t, hget, subset_rfl⟩
  obtain ⟨mode, ledger, hmem, hne⟩ := hclosed
  refine ⟨mode, ledger, (List.mem_append.mp hmem).resolve_right fun heq => ?_, hne⟩
  exact hentry other mode ledger (List.mem_singleton.mp heq)

/-- A direct completion is requested. -/
theorem Sound.request (h : c.Sound) :
    Sound { c with history := c.history ++ [.requested turnId] } :=
  ⟨h.slot.observe nofun nofun trivial, h.holders.observe nofun, h.watched⟩

/-- What a commit keeps of the other admissions of the ledger. -/
lemma commit_kept (hcommit : turn.commitMessageAdmission messageId = .ok turn') (m : String)
    (hm : m ∈ turn.pendingMessageAdmissions) (hne : m ≠ messageId) :
    m ∈ turn'.pendingMessageAdmissions := by
  rw [Turn.commitMessageAdmission_ok hcommit]
  exact Finset.mem_erase.mpr ⟨hne, hm⟩

/-- A lease commits. -/
theorem Sound.commit (h : c.Sound) (hhold : c.hold call = some (.lease turnId messageId preparation))
    (hturn : c.turns.get? turnId = some turn) (hcommit : turn.commitMessageAdmission messageId = .ok turn') :
    Sound (setHold { c with
      turns := c.turns.set turnId turn'
      history := c.history ++ [.committed turnId messageId] } call none) := by
  obtain ⟨hwell, hpending⟩ := h.pending_of_hold hhold rfl hturn
  have hopen := hwell.commit_incomplete hpending hcommit
  have hholders : (setHold { c with turns := c.turns.set turnId turn' } call none).Holders :=
    h.holders.settleMessage hhold rfl nofun hturn (hwell.commit hcommit) (commit_kept hcommit)
  have hslot : Slot { c with
      turns := c.turns.set turnId turn'
      history := c.history ++ [.committed turnId messageId] } :=
    (h.slot.setTurn hturn).observe nofun nofun fun mode ledger hmem =>
      Classical.not_imp.mp fun hclosed => h.not_closed_of_lease hhold ⟨mode, ledger, hmem, hclosed⟩
  refine ⟨hslot.setHold, hholders.observe nofun, ?_⟩
  · have hset : Watched { c with turns := c.turns.set turnId turn' } :=
      h.watched.setTurn fun hcomplete => nomatch hopen.symm.trans hcomplete
    exact hset.change fun _ _ _ hget => nomatch hhold.symm.trans hget

/-- The lease of the preparation's owner commits: the turn is prepared. -/
theorem Sound.commitOwner (h : c.Sound)
    (hhold : c.hold call = some (.lease turnId messageId (some promise)))
    (hturn : c.turns.get? turnId = some turn)
    (hcommit : turn.commitMessageAdmission messageId = .ok turn') : Sound (setHold { c with
      turns := c.turns.set turnId turn'
      pending := c.pending.delete turnId
      prepared := insert turnId c.prepared
      outcomes := c.outcomes.set promise true
      history := c.history ++ [.committed turnId messageId] } call none) := by
  have hsound := h.commit hhold hturn hcommit
  have hfree := h.holders.owner_free hhold
  refine ⟨hsound.slot.frame rfl rfl (fun _ => Iff.rfl) subset_rfl h.slot.reserved, ?_,
    hsound.watched⟩
  exact hsound.holders.resolve (h.holders.owner call turnId messageId promise hhold) hfree

/-- What a rollback keeps of the other admissions of the ledger. -/
lemma rollback_kept (hrollback : turn.rollbackMessageAdmission messageId = .ok turn') (m : String)
    (hm : m ∈ turn.pendingMessageAdmissions) (hne : m ≠ messageId) :
    m ∈ turn'.pendingMessageAdmissions :=
  (Turn.rollbackMessageAdmission_pending hrollback).2.2 m hm hne

/-- A lease rolls back: the ledger is checked next. -/
theorem Sound.rollback (h : c.Sound) (hhold : c.hold call = some (.lease turnId messageId preparation))
    (hturn : c.turns.get? turnId = some turn)
    (hrollback : turn.rollbackMessageAdmission messageId = .ok turn') : Sound (setHold { c with
      turns := c.turns.set turnId turn' } call (some (.checking turnId messageId))) := by
  obtain ⟨hwell, -⟩ := h.pending_of_hold hhold rfl hturn
  have hchecking : ∀ hold, some (Hold.checking turnId messageId) = some hold → hold.message = none := by
    rintro _ heq
    cases heq
    rfl
  refine ⟨(h.slot.setTurn hturn).setHold, ?_, ?_⟩
  · exact h.holders.settleMessage hhold rfl hchecking hturn (hwell.rollback hrollback)
      (rollback_kept hrollback)
  · have hchange : (c.setHold call (some (.checking turnId messageId))).Watched :=
      h.watched.change fun _ _ _ hget => nomatch hhold.symm.trans hget
    exact hchange.setTurn fun _ _ => ⟨call, messageId, Function.update_self _ _ _⟩

/-- A waiter rolls back after a failed preparation. -/
theorem Sound.withdraw (h : c.Sound) (hhold : c.hold call = some (.waiting turnId messageId (some ready)))
    (hready : c.outcomes.get? ready = some false) (hturn : c.turns.get? turnId = some turn)
    (hrollback : turn.rollbackMessageAdmission messageId = .ok turn') : Sound (setHold { c with
      turns := c.turns.set turnId turn' } call none) := by
  obtain ⟨hwell, -⟩ := h.pending_of_hold hhold rfl hturn
  refine ⟨(h.slot.setTurn hturn).setHold, ?_, ?_⟩
  · exact h.holders.settleMessage hhold rfl nofun hturn (hwell.rollback hrollback)
      (rollback_kept hrollback)
  · have hset : Watched { c with turns := c.turns.set turnId turn' } :=
      h.watched.setTurn fun _ hactive => absurd hactive (h.not_active_of_rejected hhold hready)
    exact hset.change fun _ _ _ hget => nomatch hhold.symm.trans hget

/-- The lease of the preparation's owner rolls back: its preparation fails, and a turn that is still
routable begins to finalize its failed setup. -/
theorem Sound.rollbackOwner (h : c.Sound)
    (hhold : c.hold call = some (.lease turnId messageId (some promise)))
    (hturn : c.turns.get? turnId = some turn)
    (hrollback : turn.rollbackMessageAdmission messageId = .ok turn') :
    Sound { (setHold { c with turns := c.turns.set turnId turn' } call none).begin turnId .setup with
      pending := c.pending.delete turnId
      outcomes := c.outcomes.set promise false } := by
  obtain ⟨hwell, -⟩ := h.pending_of_hold hhold rfl hturn
  have hslot : (setHold { c with turns := c.turns.set turnId turn' } call none).Slot :=
    (h.slot.setTurn hturn).setHold
  have hholders : (setHold { c with turns := c.turns.set turnId turn' } call none).Holders :=
    h.holders.settleMessage hhold rfl nofun hturn (hwell.rollback hrollback)
      (rollback_kept hrollback)
  have hpending := h.holders.owner call turnId messageId promise hhold
  have hfree := h.holders.owner_free hhold
  by_cases hactive : c.active = some turnId
  · have hbegin : (Core.begin _ turnId .setup).Slot := hslot.begin nofun
    rw [hslot.begin_active hactive] at hbegin ⊢
    exact ⟨hbegin.frame rfl rfl (fun _ => Iff.rfl) subset_rfl hbegin.reserved,
      hholders.fail hpending hfree hactive, nofun⟩
  · have hidle : (setHold { c with turns := c.turns.set turnId turn' } call none).active ≠
        some turnId := hactive
    rw [begin_idle hidle]
    refine ⟨hslot.frame rfl rfl (fun _ => Iff.rfl) subset_rfl h.slot.reserved,
      hholders.reject hpending hfree hactive, ?_⟩
    have hset : Watched { c with turns := c.turns.set turnId turn' } :=
      h.watched.setTurn fun _ hactive' => absurd hactive' hactive
    exact hset.change fun _ _ _ hget => nomatch hhold.symm.trans hget

/-- A call that checked the ledger ends. -/
theorem Sound.checked (h : c.Sound)
    (hcall : ∀ turnId messageId turn, c.hold call = some (.checking turnId messageId) →
      c.active = some turnId → c.turns.get? turnId = some turn → turn.isComplete = false) :
    (c.setHold call none).Sound where
  slot := h.slot.setHold
  holders := h.holders.drop (absurd rfl) nofun
  watched := h.watched.change hcall

/-- An outcome is recorded that does not close the ledger, or closes the ledger of a turn that begins
to finalize. -/
theorem Sound.record (h : c.Sound) (hturn : c.turns.get? turnId = some turn)
    (hwell : turn'.WellFormed)
    (hpending : turn'.pendingMessageAdmissions = turn.pendingMessageAdmissions) :
    (turn'.isComplete = false → Sound { c with turns := c.turns.set turnId turn' }) ∧
      (turn'.isComplete = true →
        Sound (Core.begin { c with turns := c.turns.set turnId turn' } turnId .normal)) := by
  have hslot : Slot { c with turns := c.turns.set turnId turn' } := h.slot.setTurn hturn
  have hholders := h.holders.grow hturn hwell hpending.symm.subset
  have hstored : (c.turns.set turnId turn').get? turnId = some turn' := OrderedMap.get?_set_self _ _ _
  constructor
  · intro hopen
    exact ⟨hslot, hholders, h.watched.setTurn fun hcomplete => nomatch hopen.symm.trans hcomplete⟩
  · intro hcomplete
    refine ⟨hslot.begin fun _ _ => Or.inl ⟨turn', hstored, hcomplete⟩, hholders.begin, ?_⟩
    by_cases hactive : c.active = some turnId
    · rw [hslot.begin_active hactive]
      exact nofun
    · have hidle : ({ c with turns := c.turns.set turnId turn' } : Core).active ≠ some turnId := hactive
      rw [begin_idle hidle]
      exact h.watched.setTurn fun _ hactive' => absurd hactive' hactive

end Operations

end Core

end Makaio.Turns
