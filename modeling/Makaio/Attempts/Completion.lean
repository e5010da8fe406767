import Makaio.Attempts.Preparation

set_option autoImplicit false

/-!
# Replayed completions

A completion clears the slot and leaves the identifier of the operation behind, so that a retry is
answered `duplicate`.  The record keeps one such identifier: the one of the completion, or of the accepted
preparation report, that came last.

## Main definitions

* `lastCompletion` — the operation of an attempt that was completed last.
* `ReplayRecognized` — a retry is answered as a duplicate and spares other operations.

## Main results

* `lastCompletedOperationId_eq` — the record names the completion that came last.
* `replay_recognized_iff` — a retry is recognized exactly while no other operation was
  completed since.
* `replay_forgotten` — after a second operation, the retry of the first is not recognized.
-/

namespace Makaio.Attempts

open Foundations

/-! ### The completion that came last -/

variable {id : String} {s : Store}

section Steps

variable {O : Type} {a : Action} {answer : Answer O} {v w : AttemptView}

/-- The operation of an attempt that a call completes. -/
def completion (id : String) : Action × Answer O → Option String
  | (.completeOperation input, .ok .completed) =>
    if input.executionAttemptId = id then some input.operationId else none
  | (.reportOperation input, .ok (.acceptedReport _)) =>
    if input.executionAttemptId = id then some input.operationId else none
  | _ => none

/-- The operation of an attempt that these calls completed last. -/
def lastCompletion (id : String) (calls : List (Action × Answer O)) : Option String :=
  (calls.filterMap (completion id)).getLast?

/-- The last completion, after one more call. -/
lemma lastCompletion_snoc (id : String) (calls : List (Action × Answer O)) (c : Action × Answer O) :
    lastCompletion id (calls ++ [c]) = (completion id c).or (lastCompletion id calls) := by
  have hlast : ([c].filterMap (completion id)).getLast? = completion id c := by
    cases h : completion id c <;> simp [h]
  rw [lastCompletion, List.filterMap_append, List.getLast?_append, hlast]
  rfl

/-- A call that completes an operation is one of two. -/
lemma eq_of_completion (h : completion id (a, answer) ≠ none) :
    (∃ input, a = .completeOperation input ∧ answer = .ok .completed ∧
        input.executionAttemptId = id) ∨
      ∃ input binding, a = .reportOperation input ∧ answer = .ok (.acceptedReport binding) ∧
        input.executionAttemptId = id := by
  unfold completion at h
  split at h
  next input heq =>
    cases heq
    split_ifs at h with hid
    · exact Or.inl ⟨input, rfl, rfl, hid⟩
    · exact absurd rfl h
  next input binding heq =>
    cases heq
    split_ifs at h with hid
    · exact Or.inr ⟨input, binding, rfl, rfl, hid⟩
    · exact absurd rfl h
  next => exact absurd rfl h

/-- A step leaves behind the operation it completes. -/
lemma lastCompletedOperationId_of_viewStep (h : ViewStep a answer v w) :
    w.record.lastCompletedOperationId =
      (completion v.record.executionAttemptId (a, answer)).or v.record.lastCompletedOperationId := by
  cases controlStep_of_viewStep h with
  | kept hkept hquiet =>
    rw [show completion v.record.executionAttemptId (a, answer) = none from ?_,
      hkept.lastCompletedOperationId]
    · rfl
    by_contra hcompletion
    rcases eq_of_completion hcompletion with ⟨input, rfl, rfl, hid⟩ | ⟨input, binding, rfl, rfl, hid⟩
    · exact absurd (hquiet rfl (congrArg some hid)) (by simp [Quiet, Decision.writes])
    · exact absurd (hquiet rfl (congrArg some hid)) (by simp [Quiet, Decision.writes])
  | reported hreachable =>
    rw [completion, if_pos hreachable.target]
    rfl
  | completed htarget =>
    rw [completion, if_pos htarget]
    rfl
  | registered | admitted | readied => rfl

/-- An operation is completed only of an attempt that exists. -/
lemma exists_of_completion {t : Store} (h : Change s a answer t)
    (hcompletion : completion id (a, answer) ≠ none) : ∃ r, s.attempts.get? id = some r := by
  rcases eq_of_completion hcompletion with ⟨input, rfl, rfl, rfl⟩ | ⟨input, binding, rfl, rfl, rfl⟩
  · cases h with
    | unchanged hquiet | evidenceStored _ hquiet => exact absurd hquiet (by simp [Quiet, Decision.writes])
    | evidenced hclaim => exact absurd hclaim (by simp [Action.claim?])
    | completed hattempt => exact ⟨_, hattempt⟩
  · obtain ⟨attempt, hreachable, -⟩ := reported_of_change h
    exact ⟨attempt, hreachable.found⟩

end Steps

/-! ### Retries -/

section Runs

variable {O : Type} (codec : OutcomeCodec O)
variable {r : ExecutionAttemptRecord}

/-- **The record names the completion that came last.** -/
theorem lastCompletedOperationId_eq (as : List Action)
    (hr : (run codec Store.empty as).attempts.get? id = some r) :
    r.lastCompletedOperationId = lastCompletion id (history codec Store.empty as) := by
  refine Eq.symm (view_history_shown codec lastCompletion
    (fun id c last => (completion id c).or last) (fun v => v.record.lastCompletedOperationId)
    preparationFacts_viewInvariant (fun _ => rfl) lastCompletion_snoc (fun _ _ _ => rfl) ?_
    (fun h _ => lastCompletedOperationId_of_viewStep h) as (view_of_get? hr))
  intro s t a answer id h hnone
  have hnot : completion id (a, answer) = none := by
    by_contra hcompletion
    obtain ⟨r, hr⟩ := exists_of_completion h hcompletion
    exact absurd (hr.symm.trans hnone) (by simp)
  rw [hnot]
  rfl

variable {input : CompleteOperationInput}

/-- A completion of an unsettled attempt is a duplicate exactly if it repeats the one that came last. -/
lemma completeOperation_duplicate_iff (hr : s.attempts.get? input.executionAttemptId = some r)
    (hunsettled : r.settlementKind = none) :
    (completeOperation (O := O) s input).2 = .ok .duplicate ↔
      r.lastCompletedOperationId = some input.operationId := by
  have hkind : ¬ r.settlementKind.isSome = true := by simp [hunsettled]
  unfold completeOperation
  rw [hr]
  dsimp only
  rw [if_neg hkind]
  unfold evaluateOperationCompletion
  by_cases hlast : r.lastCompletedOperationId = some input.operationId
  · simp [hlast]
  · rw [if_neg hlast]
    constructor
    · intro h
      exfalso
      revert h
      cases r.activeOperationId with
      | none => simp
      | some active =>
        dsimp only
        split_ifs <;> simp
    · exact fun h => absurd h hlast

/-- A completion spares the slot of another operation. -/
lemma completeOperation_spares (hr : s.attempts.get? input.executionAttemptId = some r) {other : String}
    (hactive : r.activeOperationId = some other) (hne : other ≠ input.operationId) :
    (completeOperation (O := O) s input).1 = s := by
  unfold completeOperation
  rw [hr]
  dsimp only
  split
  · rfl
  · unfold evaluateOperationCompletion
    rw [hactive]
    by_cases hlast : r.lastCompletedOperationId = some input.operationId
    · rw [if_pos hlast]
    · rw [if_neg hlast]
      dsimp only
      rw [if_pos hne]

/-- A retry of a completion is answered as a duplicate, and the slot of another operation stays. -/
def ReplayRecognized (s : Store) (input : CompleteOperationInput) : Prop :=
  (execute codec s (.completeOperation input)).2 = .ok .duplicate ∧
    ∀ r other, s.attempts.get? input.executionAttemptId = some r →
      r.activeOperationId = some other → other ≠ input.operationId →
      (execute codec s (.completeOperation input)).1 = s

/-- **A retry is recognized exactly while no other operation was completed since**: in every run from the
empty store, a completion of an unsettled attempt is answered as a duplicate, sparing the slot of any other
operation, if and only if the operation of the attempt that was completed last is the one it names. -/
theorem replay_recognized_iff (as : List Action) (input : CompleteOperationInput)
    (r : ExecutionAttemptRecord)
    (hr : (run codec Store.empty as).attempts.get? input.executionAttemptId = some r)
    (hunsettled : r.settlementKind = none) :
    ReplayRecognized codec (run codec Store.empty as) input ↔
      lastCompletion input.executionAttemptId (history codec Store.empty as) =
        some input.operationId := by
  rw [← lastCompletedOperationId_eq codec as hr, ← completeOperation_duplicate_iff (O := O) hr hunsettled]
  constructor
  · exact And.left
  · intro hduplicate
    refine ⟨hduplicate, fun r' other hr' hactive hne => ?_⟩
    exact completeOperation_spares hr' hactive hne

end Runs

/-! ### Two operations, one memory -/

/-- The codec of an owner whose outcomes carry nothing. -/
def unitCodec : OutcomeCodec Unit := ⟨fun _ => some (), some⟩

/-- An attempt with a registered runtime. -/
def registeredCalls : List Action :=
  [.createAttempt ⟨"attempt", "execution", ⟨none, "{}"⟩, 1000⟩ 0,
    .beginProvisioning ⟨⟨"execution", "attempt"⟩, "provider", .providerManaged, "provisioner", "owner",
      ⟨"1970-01-01T00:00:01.000Z", some 1000⟩⟩ "token",
    .recordAllocation ⟨⟨"attempt", 1, "owner", "token", 1000⟩, ⟨"provider", "{}"⟩⟩,
    .registerRuntime ⟨⟨"execution", "attempt"⟩, "runtime"⟩]

/-- A probe is admitted and completed. -/
def probeCalls (operationId : String) : List Action :=
  [.admitOperation ⟨⟨"execution", "attempt"⟩, .runtimeProbe, operationId, 1⟩ operationId 0,
    .completeOperation ⟨"attempt", operationId, 1⟩]

/-- A retry of the last completion is recognized. -/
theorem replay_recognized_last :
    ReplayRecognized unitCodec (run unitCodec Store.empty (registeredCalls ++ probeCalls "first"))
      ⟨"attempt", "first", 1⟩ :=
  (replay_recognized_iff unitCodec (registeredCalls ++ probeCalls "first") ⟨"attempt", "first", 1⟩ _ rfl
    rfl).mpr (by decide)

/-- **A second completion makes the record forget the first**: the retry of the first operation is answered
as one of something that never ran. -/
theorem replay_forgotten :
    (.completeOperation ⟨"attempt", "first", 1⟩, .ok .completed) ∈
        history unitCodec Store.empty (registeredCalls ++ probeCalls "first" ++ probeCalls "second") ∧
      (execute unitCodec
        (run unitCodec Store.empty (registeredCalls ++ probeCalls "first" ++ probeCalls "second"))
        (.completeOperation ⟨"attempt", "first", 1⟩)).2 = .ok .notActive ∧
      ¬ ReplayRecognized unitCodec
        (run unitCodec Store.empty (registeredCalls ++ probeCalls "first" ++ probeCalls "second"))
        ⟨"attempt", "first", 1⟩ := by
  have hanswer : (execute unitCodec
      (run unitCodec Store.empty (registeredCalls ++ probeCalls "first" ++ probeCalls "second"))
      (.completeOperation ⟨"attempt", "first", 1⟩)).2 = .ok .notActive := rfl
  refine ⟨?_, hanswer, fun h => ?_⟩
  · decide
  · exact absurd (hanswer.symm.trans h.1) (by simp)

end Makaio.Attempts
