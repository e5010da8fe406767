import Makaio.Attempts.Control

set_option autoImplicit false

/-!
# The start gate and the operation slot

An attempt admits operations through one durable gate and one slot.  The gate closes at a settlement, a
cancellation or a supersession and never opens again.  The slot is empty, or filled by an operation of the
current runtime generation, and the generation counts the registrations that were accepted.

## Main definitions

* `SlotIdle`, `SlotOccupied` — the five members of the slot.
* `GateFacts` — what an open gate and a filled slot tell.
* `registrations` — the registrations of an attempt that were accepted.

## Main results

* `generation_eq_registrations` — the generation is the number of accepted registrations.
* `admitted_guards` — what an admission has checked.
* `start_gate` — gate and slot along every run.
-/

namespace Makaio.Attempts

open Foundations

/-! ### Gate and slot -/

/-- No operation is active. -/
structure SlotIdle (control : AttemptControlState) : Prop where
  id : control.activeOperationId = none
  kind : control.activeOperationKind = none
  key : control.activeOperationKey = none
  generation : control.activeOperationGeneration = none
  admittedAt : control.activeOperationAdmittedAt = none

/-- An operation of the current runtime generation is active. -/
structure SlotOccupied (control : AttemptControlState) : Prop where
  id : control.activeOperationId ≠ none
  kind : control.activeOperationKind ≠ none
  key : control.activeOperationKey ≠ none
  generation : control.activeOperationGeneration = some control.runtimeGeneration
  admittedAt : control.activeOperationAdmittedAt ≠ none

/-- What an open gate and a filled slot tell about an attempt. -/
structure GateFacts (v : AttemptView) : Prop where
  gate : v.record.operationStartGate = .open →
    v.active = true ∧ v.record.settlementKind = none ∧ v.cancellation = none
  slot : SlotIdle v.record.toAttemptControlState ∨ SlotOccupied v.record.toAttemptControlState

/-- The gate of an attempt stays closed. -/
def GateKept (v w : AttemptView) : Prop :=
  v.record.operationStartGate = .closed → w.record.operationStartGate = .closed

variable {id : String} {r : ExecutionAttemptRecord} {s : Store}

section Steps

variable {O : Type} {a : Action} {answer : Answer O} {v w : AttemptView}

/-- The slot is as it was when the control state is. -/
lemma ControlKept.slot {r' : ExecutionAttemptRecord} (h : ControlKept r r')
    (hslot : SlotIdle r.toAttemptControlState ∨ SlotOccupied r.toAttemptControlState) :
    SlotIdle r'.toAttemptControlState ∨ SlotOccupied r'.toAttemptControlState := by
  rcases hslot with hidle | hoccupied
  · exact Or.inl ⟨h.activeOperationId.trans hidle.id, h.activeOperationKind.trans hidle.kind,
      h.activeOperationKey.trans hidle.key, h.activeOperationGeneration.trans hidle.generation,
      h.activeOperationAdmittedAt.trans hidle.admittedAt⟩
  · refine Or.inr ⟨h.activeOperationId ▸ hoccupied.id, h.activeOperationKind ▸ hoccupied.kind,
      h.activeOperationKey ▸ hoccupied.key, ?_, h.activeOperationAdmittedAt ▸ hoccupied.admittedAt⟩
    rw [h.activeOperationGeneration, h.runtimeGeneration, hoccupied.generation]

/-- What the slot is after a step. -/
lemma slot_of_controlStep (h : ControlStep a answer v w)
    (hv : SlotIdle v.record.toAttemptControlState ∨ SlotOccupied v.record.toAttemptControlState) :
    SlotIdle w.record.toAttemptControlState ∨ SlotOccupied w.record.toAttemptControlState := by
  cases h with
  | kept hkept => exact hkept.slot hv
  | registered => exact Or.inl ⟨rfl, rfl, rfl, rfl, rfl⟩
  | admitted =>
    refine Or.inr ⟨?_, ?_, ?_, rfl, ?_⟩
    all_goals simp [admittedRecord]
  | reported | completed => exact Or.inl ⟨rfl, rfl, rfl, rfl, rfl⟩
  | readied => exact ControlKept.slot (r := v.record) ⟨rfl, rfl, rfl, rfl, rfl, rfl, rfl, rfl⟩ hv

/-- Every step keeps the facts about the gate. -/
lemma gateFacts_viewInvariant : ViewInvariant O GateFacts where
  fresh := fun input createdAt deadline => ⟨fun _ => ⟨rfl, rfl, rfl⟩, Or.inl ⟨rfl, rfl, rfl, rfl, rfl⟩⟩
  step := by
    intro a answer v w h hv
    refine ⟨?_, slot_of_controlStep (controlStep_of_viewStep h) hv.slot⟩
    cases h with
    | same | unleased | started | renewed | takenOver | handedOff | uncertain | evidenced | allocated
    | evolved | terminated | registered | admitted | reported | completed | readied => exact hv.gate
    | superseded | closed | failed | cancelled | committed | abandoned =>
      exact fun hopen => absurd hopen (by simp [supersededRecord, settleAttempt])

/-- No step opens a gate. -/
lemma gateKept_of_viewStep (h : ViewStep a answer v w) : GateKept v w := by
  intro hclosed
  cases h with
  | same | unleased | started | renewed | takenOver | handedOff | uncertain | evidenced | allocated
  | evolved | terminated | registered | admitted | reported | completed | readied => exact hclosed
  | superseded | closed | failed | cancelled | committed | abandoned => rfl

/-! ### Generations -/

/-- The call registers a runtime with the attempt, and is accepted. -/
def isRegistration (id : String) : Action × Answer O → Bool
  | (.registerRuntime input, .ok (.registered _)) => input.executionAttemptId = id
  | _ => false

/-- The registrations of an attempt that were accepted. -/
def registrations (id : String) (calls : List (Action × Answer O)) : ℕ :=
  calls.countP (isRegistration id)

/-- The registrations, after one more call. -/
lemma registrations_snoc (id : String) (calls : List (Action × Answer O)) (c : Action × Answer O) :
    registrations id (calls ++ [c]) =
      registrations id calls + if isRegistration id c then 1 else 0 := by
  rw [registrations, List.countP_append, List.countP_singleton, ← registrations]

/-- An accepted registration is a call about the attempt. -/
lemma eq_of_isRegistration (h : isRegistration id (a, answer) = true) :
    ∃ input generation, a = .registerRuntime input ∧ answer = .ok (.registered generation) ∧
      input.executionAttemptId = id := by
  unfold isRegistration at h
  split at h
  next input generation heq =>
    cases heq
    exact ⟨input, generation, rfl, rfl, by simpa using h⟩
  next => cases h

/-- A step raises the generation by one if it is an accepted registration, and leaves it otherwise. -/
lemma generation_of_viewStep (h : ViewStep a answer v w) :
    w.record.runtimeGeneration = v.record.runtimeGeneration +
      if isRegistration v.record.executionAttemptId (a, answer) then 1 else 0 := by
  have hnot : (∀ input, a ≠ .registerRuntime input) →
      ¬ isRegistration v.record.executionAttemptId (a, answer) = true := by
    intro hne hregistered
    obtain ⟨input, _, ha, -⟩ := eq_of_isRegistration hregistered
    exact hne input ha
  cases controlStep_of_viewStep h with
  | kept hkept hquiet =>
    rw [if_neg, hkept.runtimeGeneration, Nat.add_zero]
    intro hregistered
    obtain ⟨input, generation, rfl, rfl, hid⟩ := eq_of_isRegistration hregistered
    exact absurd (hquiet rfl (congrArg some hid)) (by simp [Quiet, Decision.writes])
  | registered hreachable =>
    rw [if_pos (by simpa [isRegistration] using hreachable.target)]
    rfl
  | admitted | reported | completed | readied =>
    rw [if_neg (hnot fun input => by simp)]
    rfl

/-- A registration is accepted only of an attempt that exists. -/
lemma exists_of_isRegistration {t : Store} (h : Change s a answer t)
    (hregistered : isRegistration id (a, answer) = true) : ∃ r, s.attempts.get? id = some r := by
  obtain ⟨input, generation, rfl, rfl, rfl⟩ := eq_of_isRegistration hregistered
  cases h with
  | unchanged hquiet | evidenceStored _ hquiet => exact absurd hquiet (by simp [Quiet, Decision.writes])
  | evidenced hclaim => exact absurd hclaim (by simp [Action.claim?])
  | registered h => exact ⟨_, h.found⟩

end Steps

/-! ### Runs -/

section Runs

variable {O : Type} (codec : OutcomeCodec O)

/-- The facts about the gate hold after every run. -/
lemma gateFacts_run (as : List Action) {v : AttemptView} (hv : (run codec Store.empty as).view id = some v) :
    GateFacts v :=
  view_run_invariant codec gateFacts_viewInvariant as hv

/-- **The generation is the number of accepted registrations.** -/
theorem generation_eq_registrations (as : List Action)
    (hr : (run codec Store.empty as).attempts.get? id = some r) :
    r.runtimeGeneration = registrations id (history codec Store.empty as) := by
  refine Eq.symm (view_history_shown codec registrations
    (fun id c n => n + if isRegistration id c then 1 else 0) (fun v => v.record.runtimeGeneration)
    gateFacts_viewInvariant (fun _ => rfl) registrations_snoc (fun _ _ _ => rfl) ?_
    (fun h _ => generation_of_viewStep h) as (view_of_get? hr))
  intro s t a answer id h hnone
  have hnot : ¬ isRegistration id (a, answer) = true := by
    intro hregistered
    obtain ⟨r, hr⟩ := exists_of_isRegistration h hregistered
    exact absurd (hr.symm.trans hnone) (by simp)
  rw [if_neg hnot]

/-- What an admission has checked. -/
lemma admitted_guards (hs : WellFormed s) {input : AdmitOperationInput} {operationId admittedId : String}
    {now admittedAt : Instant} {generation : ℕ}
    (h : (execute codec s (.admitOperation input operationId now)).2 =
      .ok (.admitted admittedId generation admittedAt)) :
    ∃ v, s.view input.executionAttemptId = some v ∧ v.Reachable input.toOwnedAttempt ∧
      MayAdmit v.record input := by
  have hchange := execute_change codec hs.toKeyed (.admitOperation input operationId now)
  revert h hchange
  generalize (execute codec s (.admitOperation input operationId now)).2 = answer
  generalize (execute codec s (.admitOperation input operationId now)).1 = t
  intro h hchange
  subst h
  cases hchange with
  | unchanged hquiet | evidenceStored _ hquiet => exact absurd hquiet (by simp [Quiet, Decision.writes])
  | evidenced hclaim => exact absurd hclaim (by simp [Action.claim?])
  | admitted h hmay =>
    have hv := view_of_get? h.found
    exact ⟨_, hv, (h.view hs hv (hs.attempts _ _ h.found)).2, hmay⟩

/-- **Start gate and operation slot**: along every run from the empty store

* a gate that is closed stays closed;
* while it is open the attempt is the active one of its execution, unsettled and not cancelled;
* the five members of the slot are all missing or all there, and then the operation is of the current
  generation;
* the generation is the number of registrations that were accepted;
* an operation is admitted only on the active attempt, which is neither settled nor cancelled nor
  terminated, through an open gate into an empty slot. -/
theorem start_gate (as : List Action) :
    let s := run codec Store.empty as
    (∀ bs id r, s.attempts.get? id = some r → r.operationStartGate = .closed →
      ∃ r', (run codec Store.empty (as ++ bs)).attempts.get? id = some r' ∧
        r'.operationStartGate = .closed) ∧
    (∀ id r, s.attempts.get? id = some r → r.operationStartGate = .open →
      isActive s r.executionId id = true ∧ r.settlementKind = none ∧ s.cancellations.get? id = none) ∧
    (∀ id r, s.attempts.get? id = some r →
      SlotIdle r.toAttemptControlState ∨ SlotOccupied r.toAttemptControlState) ∧
    (∀ id r, s.attempts.get? id = some r →
      r.runtimeGeneration = registrations id (history codec Store.empty as)) ∧
    ∀ input operationId now admittedId generation admittedAt,
      (execute codec s (.admitOperation input operationId now)).2 =
        .ok (.admitted admittedId generation admittedAt) →
      ∃ r, s.attempts.get? input.executionAttemptId = some r ∧
        isActive s r.executionId input.executionAttemptId = true ∧ r.settlementKind = none ∧
        s.cancellations.get? input.executionAttemptId = none ∧
        (∀ operation, s.operations.get? input.executionAttemptId = some operation →
          operation.obligation ≠ .terminalConvergence) ∧
        r.operationStartGate = .open ∧ r.activeOperationId = none := by
  intro s
  have hs : WellFormed s := wellFormed_run codec as
  refine ⟨?_, ?_, ?_, fun id r hr => generation_eq_registrations codec as hr, ?_⟩
  · intro bs id r hr hclosed
    obtain ⟨w, hw, hkept⟩ := view_run_extended codec gateFacts_viewInvariant (R := GateKept)
      (fun _ h => h) (fun h h' hu => h' (h hu)) (fun h _ => gateKept_of_viewStep h) as bs
      (view_of_get? hr)
    exact ⟨w.record, get?_of_view hw, hkept hclosed⟩
  · exact fun id r hr hopen => (gateFacts_run codec as (view_of_get? hr)).gate hopen
  · exact fun id r hr => (gateFacts_run codec as (view_of_get? hr)).slot
  · intro input operationId now admittedId generation admittedAt h
    obtain ⟨v, hv, hreachable, hmay⟩ := admitted_guards codec hs h
    obtain ⟨hactive, hunsettled, hcancellation⟩ := (gateFacts_run codec as hv).gate hmay.gate
    refine ⟨v.record, get?_of_view hv, ?_, hunsettled, ?_, ?_, hmay.gate, hmay.idle⟩
    · exact (active_of_view hv).symm.trans hactive
    · exact (cancellation_of_view hv).symm.trans hcancellation
    · exact fun operation howned => hreachable.running operation ((operation_of_view hv).trans howned)

end Runs

end Makaio.Attempts
