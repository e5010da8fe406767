import Makaio.Attempts.AttemptView

set_option autoImplicit false

/-!
# Runtime and operation control of one attempt

Five operations write the control state of an attempt: registration, admission, preparation report,
completion and readiness.  Every other step leaves generation, slot, receipts and completion mark as they
are.

## Main definitions

* `Action.controls` — the five operations.
* `ControlKept` — two records with the same control state, up to the gate.
* `ControlStep` — the steps of the control state.

## Main results

* `controlStep_of_viewStep` — a step of a view is a step of its control state.
-/

namespace Makaio.Attempts

open Foundations

/-- The calls that write the control state. -/
def Action.controls : Action → Bool
  | .registerRuntime _ | .admitOperation _ _ _ | .reportOperation _ | .completeOperation _
  | .markRuntimeReady _ => true
  | _ => false

/-- The control states agree, up to the gate. -/
structure ControlKept (r r' : ExecutionAttemptRecord) : Prop where
  runtimeGeneration : r'.runtimeGeneration = r.runtimeGeneration
  activeOperationId : r'.activeOperationId = r.activeOperationId
  activeOperationKind : r'.activeOperationKind = r.activeOperationKind
  activeOperationKey : r'.activeOperationKey = r.activeOperationKey
  activeOperationGeneration : r'.activeOperationGeneration = r.activeOperationGeneration
  activeOperationAdmittedAt : r'.activeOperationAdmittedAt = r.activeOperationAdmittedAt
  lastCompletedOperationId : r'.lastCompletedOperationId = r.lastCompletedOperationId
  preparationReceipts : r'.preparationReceipts = r.preparationReceipts

section Steps

variable {O : Type}

/-- **The steps of the control state.** -/
inductive ControlStep : Action → Answer O → AttemptView → AttemptView → Prop
  /-- Another operation, a refusal, or a call about another attempt. -/
  | kept {a : Action} {answer : Answer O} {v w : AttemptView} (hkept : ControlKept v.record w.record)
      (hquiet : a.controls = true → a.target? = some v.record.executionAttemptId → Quiet answer) :
      ControlStep a answer v w
  | registered {v : AttemptView} {input : RegisterRuntimeInput} (h : v.Reachable input.toOwnedAttempt)
      (hidle : v.record.activeOperationId = none ∨
        v.record.activeOperationKind = some .runtimeProbe) :
      ControlStep (.registerRuntime input) (.ok (.registered (v.record.runtimeGeneration + 1))) v
        { v with record := registeredRecord v.record input.runtimeIncarnationId }
  | admitted {v : AttemptView} {input : AdmitOperationInput} {operationId : String} {now : Instant}
      (h : v.Reachable input.toOwnedAttempt) (hmay : MayAdmit v.record input) :
      ControlStep (.admitOperation input operationId now)
        (.ok (.admitted operationId v.record.runtimeGeneration now)) v
        { v with record := admittedRecord v.record input operationId now }
  | reported {v : AttemptView} {input : ReportOperationInput}
      (h : v.Reachable input.toOwnedAttempt) (hreport : MayReport v.record input) :
      ControlStep (.reportOperation input) (.ok (.acceptedReport input.result.binding)) v
        { v with record := reportedRecord v.record input }
  | completed {v : AttemptView} {input : CompleteOperationInput}
      (htarget : input.executionAttemptId = v.record.executionAttemptId)
      (hunsettled : v.record.settlementKind = none)
      (hactive : v.record.activeOperationId = some input.operationId) :
      ControlStep (.completeOperation input) (.ok .completed) v
        { v with record := completedRecord v.record input.operationId }
  | readied {v : AttemptView} {input : MarkRuntimeReadyInput} {acceptedAt : Instant}
      (h : v.Reachable input.toOwnedAttempt) :
      ControlStep (.markRuntimeReady input) (.ok (.ready acceptedAt)) v
        { v with record := { v.record with runtimeReadyAt := some acceptedAt } }

variable {a : Action} {answer : Answer O} {v w : AttemptView}

/-- A call that presents a claim is none of the five. -/
lemma Action.controls_of_claim? {claim : ProviderOperationClaim} (h : a.claim? = some claim) :
    a.controls = false := by
  cases a <;> first
    | rfl
    | exact absurd h (by simp [Action.claim?])

/-- A step of another operation. -/
lemma ControlStep.of_other (hkept : ControlKept v.record w.record) (hother : a.controls = false) :
    ControlStep a answer v w := .kept hkept fun h => absurd (hother.symm.trans h) (by simp)

/-- **A step of a view is a step of its control state.** -/
theorem controlStep_of_viewStep (h : ViewStep a answer v w) : ControlStep a answer v w := by
  cases h with
  | same hquiet => exact .kept ⟨rfl, rfl, rfl, rfl, rfl, rfl, rfl, rfl⟩ fun _ => hquiet
  | superseded hinput =>
    refine .of_other ⟨rfl, rfl, rfl, rfl, rfl, rfl, rfl, rfl⟩ ?_
    cases a <;> first
      | rfl
      | exact absurd hinput (by simp [Action.inserts?])
  | evidenced hclaim =>
    exact .of_other ⟨rfl, rfl, rfl, rfl, rfl, rfl, rfl, rfl⟩ (Action.controls_of_claim? hclaim)
  | closed hcloses =>
    exact .of_other ⟨rfl, rfl, rfl, rfl, rfl, rfl, rfl, rfl⟩
      (Action.controls_of_claim? (Action.claim?_of_closes? hcloses))
  | allocated haction =>
    refine .of_other ⟨rfl, rfl, rfl, rfl, rfl, rfl, rfl, rfl⟩ ?_
    rcases haction with rfl | rfl <;> rfl
  | cancelled haction =>
    refine .of_other ⟨rfl, rfl, rfl, rfl, rfl, rfl, rfl, rfl⟩ ?_
    rcases haction with ⟨_, _, rfl, -⟩ | ⟨_, _, _, rfl, -⟩ <;> rfl
  | unleased | started | renewed | takenOver | handedOff | uncertain | evolved | terminated | failed
  | committed | abandoned => exact .of_other ⟨rfl, rfl, rfl, rfl, rfl, rfl, rfl, rfl⟩ rfl
  | registered h hidle => exact .registered h hidle
  | admitted h hmay => exact .admitted h hmay
  | reported h hreport => exact .reported h hreport
  | completed htarget hunsettled hactive => exact .completed htarget hunsettled hactive
  | readied h => exact .readied h

end Steps

end Makaio.Attempts
