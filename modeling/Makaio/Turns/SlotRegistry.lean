import Makaio.Turns.Turn

set_option autoImplicit false

/-!
# The turn slot of a session

The registry keeps, for a session, the turn that new messages are routed to, the reservation of the
next one, and the preparation of its first message.  Its maps are keyed by the session; here they
are the entries of one session.  Turns are named by their globally unique identifiers, promises and
reservations by numbers.

## Main definitions

* `TurnSlotRegistry` — the maps of the registry.
* `TurnSlotRegistry.reserve`, `activate`, `clearActive`, `beginFinalization`,
  `beginPreparation`, `completePreparation`, `failPreparation` — its operations.
* `TurnSlotRegistry.acquire` — the synchronous part of `acquire`.
-/

namespace Makaio.Turns

open Foundations

/-- The maps of `TurnSlotRegistry`, for one session. -/
structure TurnSlotRegistry where
  activeTurn : Option String
  reservation : Option ℕ
  pendingAcquisition : Option ℕ
  pendingPreparations : OrderedMap String ℕ
  preparedTurnIds : Finset String
  pendingFinalization : Option ℕ
  finalizingTurnIds : Finset String

/-- What `acquire` finds: the routable turn, a creation to await, or a free slot it reserved. -/
inductive Acquired
  | active (turnId : String)
  | pending (creation : ℕ)
  | reserved (slots : TurnSlotRegistry)

/-- The lease of `beginPreparation`: of the owner, with the promise it settles, or of a waiter with
the promise it waits for, none where the turn is prepared. -/
inductive PreparationLease
  | owner (promise : ℕ)
  | waiter (ready : Option ℕ)

namespace TurnSlotRegistry

/-- An idle session. -/
def empty : TurnSlotRegistry := ⟨none, none, none, .empty, ∅, none, ∅⟩

/-- Reserve an otherwise idle session slot for exclusive setup. -/
def reserve (slots : TurnSlotRegistry) (reservation : ℕ) : Except String TurnSlotRegistry :=
  if slots.activeTurn.isSome || slots.reservation.isSome then
    .error "Session already has a routable or pending turn"
  else .ok { slots with reservation := some reservation }

/-- Release an unused reservation. -/
def release (slots : TurnSlotRegistry) (reservation : ℕ) : TurnSlotRegistry :=
  if slots.reservation = some reservation then { slots with reservation := none } else slots

/-- Activate a newly constructed turn while consuming its reservation. -/
def activate (slots : TurnSlotRegistry) (reservation : ℕ) (turnId : String) :
    Except String TurnSlotRegistry :=
  if slots.reservation ≠ some reservation then
    .error "Turn reservation for session is no longer active"
  else .ok ({ slots with activeTurn := some turnId }.release reservation)

/-- The synchronous part of `acquire`: reuse the routable turn, await the pending creation, or
reserve the slot for a creation. -/
def acquire (slots : TurnSlotRegistry) (creation : ℕ) : Except String Acquired :=
  match slots.activeTurn, slots.pendingAcquisition with
  | some turnId, _ => .ok (.active turnId)
  | none, some pending => .ok (.pending pending)
  | none, none => (slots.reserve creation).map fun slots =>
    .reserved { slots with pendingAcquisition := some creation }

/-- The `finally` of `acquire`: forget the creation unless another one replaced it. -/
def forgetAcquisition (slots : TurnSlotRegistry) (creation : ℕ) : TurnSlotRegistry :=
  if slots.pendingAcquisition = some creation then { slots with pendingAcquisition := none }
  else slots

/-- Remove a turn only when it still owns its session's routable slot. -/
def clearActive (slots : TurnSlotRegistry) (turnId : String) : TurnSlotRegistry :=
  if slots.activeTurn ≠ some turnId then slots
  else { slots with
    activeTurn := none
    preparedTurnIds := slots.preparedTurnIds.erase turnId }

/-- Whether a message can be admitted: the turn still owns a routable slot. -/
def admits (slots : TurnSlotRegistry) (turnId : String) : Bool :=
  !(decide (turnId ∈ slots.finalizingTurnIds) || slots.activeTurn ≠ some turnId)

/-- Begin terminalization synchronously, preventing any later admission to this turn. -/
def beginFinalization (slots : TurnSlotRegistry) (turnId : String) : TurnSlotRegistry × Bool :=
  if turnId ∈ slots.finalizingTurnIds then (slots, false)
  else if slots.activeTurn ≠ some turnId then (slots, false)
  else
    ({ slots with finalizingTurnIds := insert turnId slots.finalizingTurnIds }.clearActive turnId,
      true)

/-- Release the terminal marker after finalization state is fully cleared. -/
def finishFinalization (slots : TurnSlotRegistry) (turnId : String) : TurnSlotRegistry :=
  { slots with finalizingTurnIds := slots.finalizingTurnIds.erase turnId }

/-- Acquire the first-message preparation lease for a turn. -/
def beginPreparation (slots : TurnSlotRegistry) (turnId : String) (promise : ℕ) :
    TurnSlotRegistry × PreparationLease :=
  if turnId ∈ slots.preparedTurnIds then (slots, .waiter none)
  else
    match slots.pendingPreparations.get? turnId with
    | some ready => (slots, .waiter (some ready))
    | none => ({ slots with
        pendingPreparations := slots.pendingPreparations.set turnId promise }, .owner promise)

/-- Publish a completed first-message preparation, with the promise that resolves; it throws where no
preparation is pending. -/
def completePreparation (slots : TurnSlotRegistry) (turnId : String) :
    Except String (TurnSlotRegistry × ℕ) :=
  match slots.pendingPreparations.get? turnId with
  | none => .error s!"Turn preparation for {turnId} is no longer active"
  | some promise => .ok ({ slots with
      pendingPreparations := slots.pendingPreparations.delete turnId
      preparedTurnIds := insert turnId slots.preparedTurnIds }, promise)

/-- Fail the first-message preparation, with the promise that rejects. -/
def failPreparation (slots : TurnSlotRegistry) (turnId : String) : TurnSlotRegistry × Option ℕ :=
  ({ slots with pendingPreparations := slots.pendingPreparations.delete turnId },
    slots.pendingPreparations.get? turnId)

/-! ### What the operations do to the slot -/

section Slot

variable {slots slots' : TurnSlotRegistry} {turnId : String} {reservation : ℕ}

/-- An activation consumes the current reservation. -/
lemma activate_ok (h : slots.activate reservation turnId = .ok slots') :
    slots.reservation = some reservation ∧
      slots' = { slots with activeTurn := some turnId, reservation := none } := by
  rw [activate] at h
  split_ifs at h with hreservation
  cases h
  rw [ne_eq, not_not] at hreservation
  refine ⟨hreservation, ?_⟩
  rw [release, if_pos hreservation]

/-- A reservation needs an idle slot. -/
lemma reserve_ok (h : slots.reserve reservation = .ok slots') :
    slots.activeTurn = none ∧ slots.reservation = none ∧
      slots' = { slots with reservation := some reservation } := by
  rw [reserve] at h
  split_ifs at h with hbusy
  rw [Bool.or_eq_true, not_or, Bool.not_eq_true, Bool.not_eq_true, Option.isSome_eq_false_iff,
    Option.isSome_eq_false_iff, Option.isNone_iff_eq_none, Option.isNone_iff_eq_none] at hbusy
  exact ⟨hbusy.1, hbusy.2, (Except.ok.inj h).symm⟩

/-- An acquisition that reserves the slot needs an idle one. -/
lemma acquire_reserved {creation : ℕ} (h : slots.acquire creation = .ok (.reserved slots')) :
    slots.activeTurn = none ∧ slots' = { slots with
      reservation := some creation
      pendingAcquisition := some creation } := by
  rw [acquire] at h
  split at h
  · exact nomatch h
  · exact nomatch h
  · cases hreserve : slots.reserve creation with
    | error message =>
      rw [hreserve] at h
      exact nomatch h
    | ok reserved =>
      rw [hreserve] at h
      obtain ⟨hfree, -, rfl⟩ := reserve_ok hreserve
      exact ⟨hfree, (Acquired.reserved.inj (Except.ok.inj h)).symm⟩

/-- A routable turn admits messages unless it is finalizing. -/
lemma admits_iff : slots.admits turnId = true ↔
    turnId ∉ slots.finalizingTurnIds ∧ slots.activeTurn = some turnId := by
  rw [admits, Bool.not_eq_true', Bool.or_eq_false_iff, decide_eq_false_iff_not]
  simp

/-- The preparation of a turn is done, pending, or begins. -/
lemma beginPreparation_cases (slots : TurnSlotRegistry) (turnId : String) (promise : ℕ) :
    (turnId ∈ slots.preparedTurnIds ∧
        slots.beginPreparation turnId promise = (slots, .waiter none)) ∨
      (∃ ready, slots.pendingPreparations.get? turnId = some ready ∧
        slots.beginPreparation turnId promise = (slots, .waiter (some ready))) ∨
      (turnId ∉ slots.preparedTurnIds ∧ slots.pendingPreparations.get? turnId = none ∧
        slots.beginPreparation turnId promise = ({ slots with
          pendingPreparations := slots.pendingPreparations.set turnId promise },
          .owner promise)) := by
  rw [beginPreparation]
  split_ifs with hprepared
  · exact Or.inl ⟨hprepared, rfl⟩
  · cases hpending : slots.pendingPreparations.get? turnId with
    | some ready => exact Or.inr (Or.inl ⟨ready, rfl, rfl⟩)
    | none => exact Or.inr (Or.inr ⟨hprepared, rfl, rfl⟩)

/-- A preparation leaves the routable turn. -/
@[simp] lemma beginPreparation_activeTurn (slots : TurnSlotRegistry) (turnId : String)
    (promise : ℕ) : (slots.beginPreparation turnId promise).1.activeTurn = slots.activeTurn := by
  rcases slots.beginPreparation_cases turnId promise with
    ⟨-, heq⟩ | ⟨ready, -, heq⟩ | ⟨-, -, heq⟩
  all_goals rw [heq]

/-- A turn that is finalizing or not routable does not begin finalization. -/
lemma beginFinalization_idle
    (h : turnId ∈ slots.finalizingTurnIds ∨ slots.activeTurn ≠ some turnId) :
    slots.beginFinalization turnId = (slots, false) := by
  rw [beginFinalization]
  split_ifs with hfinalizing hactive
  · rfl
  · rfl
  · exact absurd h (not_or.mpr ⟨hfinalizing, hactive⟩)

/-- A routable turn begins finalization and loses its slot. -/
lemma beginFinalization_active (hfinalizing : turnId ∉ slots.finalizingTurnIds)
    (hactive : slots.activeTurn = some turnId) :
    slots.beginFinalization turnId = ({ slots with
      activeTurn := none
      preparedTurnIds := slots.preparedTurnIds.erase turnId
      finalizingTurnIds := insert turnId slots.finalizingTurnIds }, true) := by
  rw [beginFinalization, if_neg hfinalizing, if_neg (not_not.mpr hactive), clearActive,
    if_neg (not_not.mpr hactive)]

end Slot

end TurnSlotRegistry

end Makaio.Turns
