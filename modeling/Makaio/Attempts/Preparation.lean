import Makaio.Attempts.Gate

set_option autoImplicit false

/-!
# Preparation receipts

An attempt whose instruction names a workspace runs workloads only after a runtime of the current
generation prepared the workspace.  Each acceptance of a report is kept as a receipt, and the receipts are
exactly the reports that were accepted, in their order.

## Main definitions

* `PreparationFacts` — the generations of the receipts, and when there is none yet.
* `acceptedReceipts` — the reports of an attempt that were accepted.

## Main results

* `receipts_eq_acceptedReceipts` — the receipts are the accepted reports.
* `reportOperation_replayed` — a replayed report is answered from its receipt.
* `preparation_fence` — the fence along every run.
-/

namespace Makaio.Attempts

open Foundations

/-! ### The receipts of an attempt -/

/-- What holds of the receipts of an attempt. -/
structure PreparationFacts (v : AttemptView) : Prop where
  generations : (v.record.preparationReceipts.map PreparationReceipt.runtimeGeneration).Nodup
  operations : (v.record.preparationReceipts.map PreparationReceipt.operationId).Nodup
  bounded : ∀ receipt ∈ v.record.preparationReceipts,
    receipt.runtimeGeneration ≤ v.record.runtimeGeneration
  /-- A Preparation operation runs only in a generation without a receipt. -/
  unprepared : v.record.activeOperationKind = some .workspacePreparation →
    ∀ receipt ∈ v.record.preparationReceipts,
      receipt.runtimeGeneration ≠ v.record.runtimeGeneration

/-- The receipts of an attempt are kept, and others follow them. -/
def ReceiptsKept (v w : AttemptView) : Prop :=
  v.record.preparationReceipts <+: w.record.preparationReceipts

variable {r : ExecutionAttemptRecord} {id : String}

/-- A receipt of the current generation is held. -/
lemma prepared_iff :
    prepared r.toAttemptControlState r.toAttemptExecutionState = true ↔
      ∃ receipt ∈ r.preparationReceipts, receipt.runtimeGeneration = r.runtimeGeneration := by
  simp [prepared]

variable {input : ReportOperationInput} {s : Store}

section Steps

variable {O : Type} {a : Action} {answer : Answer O} {v w : AttemptView}

/-- An extended list of distinct values. -/
private lemma nodup_map_concat {α β : Type*} {f : α → β} {l : List α} {x : α} (h : (l.map f).Nodup)
    (hx : ∀ y ∈ l, f y ≠ f x) : ((l ++ [x]).map f).Nodup := by
  rw [List.map_append, List.nodup_append]
  refine ⟨h, List.nodup_singleton _, ?_⟩
  intro b hb c hc
  obtain ⟨y, hy, rfl⟩ := List.mem_map.mp hb
  obtain rfl : c = f x := by simpa using hc
  exact hx y hy

/-- A step of the control keeps the facts about preparation. -/
lemma PreparationFacts.of_controlStep (hv : PreparationFacts v) (h : ControlStep a answer v w) :
    PreparationFacts w := by
  cases h with
  | kept hkept =>
    have hreceipts := hkept.preparationReceipts
    refine ⟨by rw [hreceipts]; exact hv.generations, by rw [hreceipts]; exact hv.operations, ?_, ?_⟩
    · rw [hreceipts, hkept.runtimeGeneration]
      exact hv.bounded
    · rw [hreceipts, hkept.runtimeGeneration, hkept.activeOperationKind]
      exact hv.unprepared
  | registered =>
    refine ⟨hv.generations, hv.operations, ?_, fun hkind => absurd hkind ?_⟩
    · exact fun receipt hreceipt => (hv.bounded receipt hreceipt).trans (Nat.le_succ _)
    · simp [registeredRecord, clearOperation]
  | admitted h hmay =>
    refine ⟨hv.generations, hv.operations, hv.bounded, fun hkind receipt hreceipt heq => ?_⟩
    have hunprepared := hmay.unprepared (Option.some.inj hkind)
    have hprepared : prepared v.record.toAttemptControlState v.record.toAttemptExecutionState = true :=
      prepared_iff.mpr ⟨receipt, hreceipt, heq⟩
    exact absurd (hprepared.symm.trans hunprepared) (by simp)
  | reported h hreport =>
    refine ⟨?_, ?_, ?_, fun hkind => absurd hkind (by simp [reportedRecord, clearOperation])⟩
    · refine nodup_map_concat hv.generations fun receipt hreceipt => ?_
      rw [← hreport.generation]
      exact hv.unprepared hreport.kind receipt hreceipt
    · exact nodup_map_concat hv.operations fun receipt hreceipt => hreport.new receipt hreceipt
    · intro receipt hreceipt
      rcases List.mem_append.mp hreceipt with hreceipt | hreceipt
      · exact hv.bounded receipt hreceipt
      · obtain rfl := List.mem_singleton.mp hreceipt
        exact hreport.generation.ge
  | completed =>
    exact ⟨hv.generations, hv.operations, hv.bounded,
      fun hkind => absurd hkind (by simp [completedRecord, clearOperation])⟩
  | readied => exact ⟨hv.generations, hv.operations, hv.bounded, hv.unprepared⟩

/-- Every step keeps the facts about preparation. -/
lemma preparationFacts_viewInvariant : ViewInvariant O PreparationFacts where
  fresh := fun input createdAt deadline =>
    ⟨List.nodup_nil, List.nodup_nil, fun _ h => absurd h (by simp [AttemptView.fresh, newRecord]),
      fun _ _ h => absurd h (by simp [AttemptView.fresh, newRecord])⟩
  step := fun h hv => hv.of_controlStep (controlStep_of_viewStep h)

/-- No step drops a receipt. -/
lemma receiptsKept_of_viewStep (h : ViewStep a answer v w) : ReceiptsKept v w := by
  cases controlStep_of_viewStep h with
  | kept hkept =>
    unfold ReceiptsKept
    rw [hkept.preparationReceipts]
  | reported => exact List.prefix_append _ _
  | registered | admitted | completed | readied => exact List.prefix_rfl

/-- The receipt of a report that is accepted of an attempt. -/
def acceptedReceipt (id : String) : Action × Answer O → Option PreparationReceipt
  | (.reportOperation input, .ok (.acceptedReport _)) =>
    if input.executionAttemptId = id then
      some ⟨input.operationId, input.runtimeGeneration, input.result⟩
    else none
  | _ => none

/-- The receipts of the reports that were accepted of an attempt, oldest first. -/
def acceptedReceipts (id : String) (calls : List (Action × Answer O)) : List PreparationReceipt :=
  calls.filterMap (acceptedReceipt id)

/-- The accepted receipts, after one more call. -/
lemma acceptedReceipts_snoc (id : String) (calls : List (Action × Answer O)) (c : Action × Answer O) :
    acceptedReceipts id (calls ++ [c]) =
      acceptedReceipts id calls ++ (acceptedReceipt id c).toList := by
  rw [acceptedReceipts, List.filterMap_append, ← acceptedReceipts]
  cases h : acceptedReceipt id c <;> simp [h]

/-- A call that leaves a receipt is an accepted report. -/
lemma eq_of_acceptedReceipt (h : acceptedReceipt id (a, answer) ≠ none) :
    ∃ input binding, a = .reportOperation input ∧ answer = .ok (.acceptedReport binding) ∧
      input.executionAttemptId = id := by
  unfold acceptedReceipt at h
  split at h
  next input binding heq =>
    cases heq
    split_ifs at h with hid
    · exact ⟨input, binding, rfl, rfl, hid⟩
    · exact absurd rfl h
  next => exact absurd rfl h

/-- A change that accepts a report. -/
lemma reported_of_change {t : Store} {binding : ExecutionAttemptWorkspaceBinding}
    (h : Change (O := O) s (.reportOperation input) (.ok (.acceptedReport binding)) t) :
    ∃ attempt, Reachable s input.toOwnedAttempt attempt ∧ MayReport attempt input := by
  cases h with
  | unchanged hquiet | evidenceStored _ hquiet => exact absurd hquiet (by simp [Quiet, Decision.writes])
  | evidenced hclaim => exact absurd hclaim (by simp [Action.claim?])
  | reported h hreport => exact ⟨_, h, hreport⟩

/-- A step adds the receipt of the report it accepts. -/
lemma receipts_of_viewStep (h : ViewStep a answer v w) :
    w.record.preparationReceipts = v.record.preparationReceipts ++
      (acceptedReceipt v.record.executionAttemptId (a, answer)).toList := by
  have hnot : (∀ input, a ≠ .reportOperation input) →
      acceptedReceipt v.record.executionAttemptId (a, answer) = none := by
    intro hne
    by_contra haccepted
    obtain ⟨input, _, ha, -⟩ := eq_of_acceptedReceipt haccepted
    exact hne input ha
  cases controlStep_of_viewStep h with
  | kept hkept hquiet =>
    rw [show acceptedReceipt v.record.executionAttemptId (a, answer) = none from ?_,
      hkept.preparationReceipts]
    · exact (List.append_nil _).symm
    by_contra haccepted
    obtain ⟨input, binding, rfl, rfl, hid⟩ := eq_of_acceptedReceipt haccepted
    exact absurd (hquiet rfl (congrArg some hid)) (by simp [Quiet, Decision.writes])
  | reported hreachable =>
    rw [acceptedReceipt, if_pos hreachable.target]
    rfl
  | registered | admitted | completed | readied =>
    rw [hnot fun input => by simp]
    exact (List.append_nil _).symm

end Steps

/-! ### Runs -/

section Runs

variable {O : Type} (codec : OutcomeCodec O)

/-- The facts about preparation hold after every run. -/
lemma preparationFacts_run (as : List Action) {v : AttemptView}
    (hv : (run codec Store.empty as).view id = some v) : PreparationFacts v :=
  view_run_invariant codec preparationFacts_viewInvariant as hv

/-- **The receipts of an attempt are the reports that were accepted of it**, in their order. -/
theorem receipts_eq_acceptedReceipts (as : List Action)
    (hr : (run codec Store.empty as).attempts.get? id = some r) :
    r.preparationReceipts = acceptedReceipts id (history codec Store.empty as) := by
  refine Eq.symm (view_history_shown codec acceptedReceipts
    (fun id c receipts => receipts ++ (acceptedReceipt id c).toList)
    (fun v => v.record.preparationReceipts) preparationFacts_viewInvariant (fun _ => rfl)
    acceptedReceipts_snoc (fun _ _ _ => rfl) ?_ (fun h _ => receipts_of_viewStep h) as
    (view_of_get? hr))
  intro s t a answer id h hnone
  have hnot : acceptedReceipt id (a, answer) = none := by
    by_contra haccepted
    obtain ⟨input, binding, rfl, rfl, rfl⟩ := eq_of_acceptedReceipt haccepted
    obtain ⟨attempt, hreachable, -⟩ := reported_of_change h
    exact absurd (hreachable.found.symm.trans hnone) (by simp)
  rw [hnot]
  rfl

/-- **A report about an operation with a receipt is answered from the receipt**, and nothing changes. -/
theorem reportOperation_replayed (hr : s.attempts.get? input.executionAttemptId = some r)
    (hexecution : r.executionId = input.executionId)
    (hdistinct : (r.preparationReceipts.map PreparationReceipt.operationId).Nodup)
    {receipt : PreparationReceipt} (hreceipt : receipt ∈ r.preparationReceipts)
    (hoperation : receipt.operationId = input.operationId) :
    reportOperation (O := O) s input = (s, .ok
      (if receipt.runtimeGeneration = input.runtimeGeneration ∧ receipt.result = input.result then
        .duplicateReport receipt.result.binding
      else .conflict)) := by
  have hfind : (r.preparationReceipts.find? fun receipt => receipt.operationId = input.operationId) =
      some receipt := by
    cases hfound : r.preparationReceipts.find? fun receipt =>
        receipt.operationId = input.operationId with
    | none => exact absurd hoperation (by simpa using List.find?_eq_none.mp hfound receipt hreceipt)
    | some other =>
      have hother : other.operationId = input.operationId := by simpa using List.find?_some hfound
      exact congrArg some (List.inj_on_of_nodup_map hdistinct (List.mem_of_find?_eq_some hfound)
        hreceipt (hother.trans hoperation.symm))
  unfold reportOperation
  rw [hr]
  dsimp only
  rw [if_neg (not_not.mpr hexecution)]
  unfold evaluatePreparationReport
  dsimp only [Bool.not_true]
  rw [if_neg (by simp), hfind]
  dsimp only
  split_ifs <;> rfl

/-- **The preparation fence**: along every run from the empty store

* a workload is admitted on an attempt with a workspace only under a receipt of the current generation;
* the receipts are exactly the accepted reports, with distinct generations, and later calls only append;
* a report about an operation with a receipt is answered from the receipt, and an accepted report that is
  repeated later is answered as a duplicate, both without any change.

**Proof sketch.** A Preparation operation is admitted in a generation without a receipt and leaves the slot
before the generation moves on, so the report that is accepted brings the first receipt of its generation. -/
theorem preparation_fence (as : List Action) :
    let s := run codec Store.empty as
    (∀ input operationId now admittedId generation admittedAt,
      (execute codec s (.admitOperation input operationId now)).2 =
        .ok (.admitted admittedId generation admittedAt) →
      input.operationKind = .workloadInvocation ∨ input.operationKind = .workflowRun →
      ∃ r, s.attempts.get? input.executionAttemptId = some r ∧ (r.instruction.workspace ≠ none →
        ∃ receipt ∈ r.preparationReceipts, receipt.runtimeGeneration = r.runtimeGeneration)) ∧
    (∀ id r, s.attempts.get? id = some r →
      r.preparationReceipts = acceptedReceipts id (history codec Store.empty as) ∧
      (r.preparationReceipts.map PreparationReceipt.runtimeGeneration).Nodup) ∧
    (∀ bs id r, s.attempts.get? id = some r →
      ∃ r', (run codec Store.empty (as ++ bs)).attempts.get? id = some r' ∧
        r.preparationReceipts <+: r'.preparationReceipts) ∧
    (∀ input r receipt, s.attempts.get? input.executionAttemptId = some r →
      r.executionId = input.executionId → receipt ∈ r.preparationReceipts →
      receipt.operationId = input.operationId →
      execute codec s (.reportOperation input) = (s, .ok
        (if receipt.runtimeGeneration = input.runtimeGeneration ∧ receipt.result = input.result then
          .duplicateReport receipt.result.binding
        else .conflict))) ∧
    ∀ input binding, (.reportOperation input, .ok (.acceptedReport binding)) ∈
        history codec Store.empty as →
      execute codec s (.reportOperation input) = (s, .ok (.duplicateReport input.result.binding)) := by
  intro s
  have hs : WellFormed s := wellFormed_run codec as
  refine ⟨?_, ?_, ?_, ?_, ?_⟩
  · intro input operationId now admittedId generation admittedAt h hkind
    obtain ⟨v, hv, -, hmay⟩ := admitted_guards codec hs h
    exact ⟨v.record, get?_of_view hv, fun hne => prepared_iff.mp (hmay.workload hkind hne)⟩
  · exact fun id r hr => ⟨receipts_eq_acceptedReceipts codec as hr,
      (preparationFacts_run codec as (view_of_get? hr)).generations⟩
  · intro bs id r hr
    obtain ⟨w, hw, hkept⟩ := view_run_extended codec preparationFacts_viewInvariant
      (R := ReceiptsKept) (fun _ => List.prefix_rfl) (fun h h' => h.trans h')
      (fun h _ => receiptsKept_of_viewStep h) as bs (view_of_get? hr)
    exact ⟨w.record, get?_of_view hw, hkept⟩
  · intro input r receipt hr hexecution hreceipt hoperation
    exact reportOperation_replayed hr hexecution (preparationFacts_run codec as (view_of_get? hr)).operations
      hreceipt hoperation
  · intro input binding hmem
    -- the attempt was of this execution when the report was accepted
    obtain ⟨bs, cs, rfl, hanswer⟩ := mem_history codec as hmem
    have hs₀ := wellFormed_run codec bs
    obtain ⟨attempt, hreachable, -⟩ := reported_of_change
      (hanswer ▸ execute_change codec hs₀.toKeyed (.reportOperation input))
    obtain ⟨w, hw, hexecution⟩ := view_run_extended codec preparationFacts_viewInvariant
      (R := fun v w => w.record.executionId = v.record.executionId) (fun _ => rfl)
      (fun h h' => h'.trans h) (fun h _ => executionId_of_viewStep h) bs (.reportOperation input :: cs)
      (view_of_get? hreachable.found)
    have hr := get?_of_view hw
    have hreceipt : ⟨input.operationId, input.runtimeGeneration, input.result⟩ ∈
        w.record.preparationReceipts := by
      rw [receipts_eq_acceptedReceipts codec _ hr]
      exact List.mem_filterMap.mpr ⟨_, hmem, by simp [acceptedReceipt]⟩
    have hanswered := reportOperation_replayed (O := O) hr (hexecution.trans hreachable.executionId)
      (preparationFacts_run codec _ (view_of_get? hr)).operations hreceipt rfl
    rw [if_pos ⟨rfl, rfl⟩] at hanswered
    exact hanswered

end Runs

end Makaio.Attempts
