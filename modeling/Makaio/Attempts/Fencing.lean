import Makaio.Attempts.AttemptView

set_option autoImplicit false

/-!
# Claims are fenced

A controller acts on an attempt's infrastructure under a claim, and a takeover or a handoff ends every
claim issued before.  The generation of the provider operation fences: it grows with each takeover, and a
handoff clears the token, which no operation brings back.

## Main definitions

* `OperationStep` — what a step does to the provider operation.
* `ClaimFacts` — how operation, allocation and settlement go together.
* `Issued`, `Releases` — claims handed out, and calls that end them.
* `Fenced` — a claim the operation will never accept again.

## Main results

* `fenced_after_release` — a release fences every claim issued before.
* `claim_fencing` — fencing, together with what the operation record keeps along a run.
-/

namespace Makaio.Attempts

open Foundations

/-! ### The operation record along a run -/

/-- What holds of operation, allocation and settlement of an attempt. -/
structure ClaimFacts (v : AttemptView) : Prop where
  started : v.operation ≠ none → v.record.status ≠ .pending
  allocation : ∀ operation, v.operation = some operation →
    (v.record.allocationRef = none ↔ operation.obligation = .provisioningResolution)
  unallocated : v.operation = none → v.record.allocationRef = none
  failure : v.record.settlementKind = some .infrastructureFailure →
    ∃ operation, v.operation = some operation ∧ operation.obligation = .terminalConvergence

/-- An operation record is rewritten within one ownership, or taken over. -/
structure OperationUpdate (operation operation' : ProviderOperationOwnershipRecord) : Prop where
  /-- The token changes only with the generation, or is cleared. -/
  generation : operation.generation < operation'.generation ∨
    operation'.generation = operation.generation ∧
      (operation'.token = operation.token ∨ operation'.token = none)
  obligation : operation.obligation.rank ≤ operation'.obligation.rank
  evidence : operation.completionEvidence ≠ none →
    operation'.completionEvidence = operation.completionEvidence

/-- What a step does to the provider operation. -/
inductive OperationStep (v w : AttemptView) : Prop
  | kept (hoperation : w.operation = v.operation)
  | started (hnone : v.operation = none)
  | updated (operation operation' : ProviderOperationOwnershipRecord)
      (hv : v.operation = some operation) (hw : w.operation = some operation')
      (hupdate : OperationUpdate operation operation')

variable {operation : ProviderOperationOwnershipRecord}

section Steps

variable {O : Type} {a : Action} {answer : Answer O} {v w : AttemptView}

/-- Terminal convergence is the last obligation. -/
lemma obligation_rank_le (obligation : ProviderOperationObligation) :
    obligation.rank ≤ ProviderOperationObligation.terminalConvergence.rank := by
  cases obligation <;> decide

variable {operation' : ProviderOperationOwnershipRecord}

/-- A rewriting that leaves generation, token, obligation and evidence alone. -/
lemma OperationUpdate.of_eq (hgeneration : operation'.generation = operation.generation)
    (htoken : operation'.token = operation.token ∨ operation'.token = none)
    (hobligation : operation.obligation.rank ≤ operation'.obligation.rank)
    (hevidence : operation.completionEvidence ≠ none →
      operation'.completionEvidence = operation.completionEvidence) :
    OperationUpdate operation operation' :=
  ⟨Or.inr ⟨hgeneration, htoken⟩, hobligation, hevidence⟩

/-- **What a step does to the provider operation.** -/
lemma operationStep_of_viewStep (h : ViewStep a answer v w) (hv : ClaimFacts v) :
    OperationStep v w := by
  cases h with
  | same | superseded | unleased | evolved | failed | registered | admitted | reported | completed
  | readied | cancelled | committed | abandoned => exact .kept rfl
  | started h =>
    refine .started ?_
    by_contra hne
    exact hv.started hne h.pending
  | renewed h => exact .updated _ _ h.owned rfl (.of_eq rfl (Or.inl rfl) le_rfl fun _ => rfl)
  | takenOver _ hoperation =>
    exact .updated _ _ hoperation rfl ⟨Or.inl (Nat.lt_succ_self _), le_rfl, fun _ => rfl⟩
  | handedOff h => exact .updated _ _ h.owned rfl (.of_eq rfl (Or.inr rfl) le_rfl fun _ => rfl)
  | uncertain h => exact .updated _ _ h.owned rfl (.of_eq rfl (Or.inl rfl) le_rfl fun _ => rfl)
  | evidenced _ _ h hnone =>
    exact .updated _ _ h.owned rfl (.of_eq rfl (Or.inl rfl) le_rfl fun hne => absurd hnone hne)
  | allocated _ h _ hnone =>
    refine .updated _ _ h.owned rfl (.of_eq rfl (Or.inl rfl) ?_ fun _ => rfl)
    rw [(hv.allocation _ h.owned).mp hnone]
    exact Nat.zero_le _
  | closed _ h =>
    refine .updated _ _ h.owned rfl (.of_eq rfl (Or.inl rfl) le_rfl fun hne => ?_)
    obtain ⟨evidence, hevidence⟩ := Option.ne_none_iff_exists'.mp hne
    rw [hevidence, Option.some_or]
  | terminated h =>
    refine .updated _ _ h.owned rfl (.of_eq rfl (Or.inl rfl) ?_ fun _ => rfl)
    exact obligation_rank_le _

/-- A rewriting of the operation that leaves the obligation alone. -/
lemma ClaimFacts.of_operation (hv : ClaimFacts v) (howned : v.operation = some operation)
    (hobligation : operation'.obligation = operation.obligation) :
    ClaimFacts { v with operation := some operation' } where
  started := fun _ => hv.started (by simp [howned])
  allocation := by
    intro stored hstored
    cases hstored
    rw [hobligation]
    exact hv.allocation operation howned
  unallocated := fun hnone => nomatch hnone
  failure := by
    intro hkind
    obtain ⟨stored, hstored, hterminal⟩ := hv.failure hkind
    cases hstored.symm.trans howned
    exact ⟨operation', rfl, hobligation.trans hterminal⟩

/-- A settlement of another kind than an infrastructure failure. -/
lemma ClaimFacts.of_settle (hv : ClaimFacts v) {kind : SettlementKind}
    (hne : kind ≠ .infrastructureFailure) :
    ClaimFacts { v with record := settleAttempt v.record kind } where
  started := fun _ => by simp [settleAttempt]
  allocation := hv.allocation
  unallocated := hv.unallocated
  failure := fun hkind => absurd (Option.some.inj hkind) hne

/-- Every step keeps the facts about claims. -/
lemma claimFacts_viewInvariant : ViewInvariant O ClaimFacts where
  fresh := fun input createdAt deadline =>
    ⟨fun h => absurd rfl h, fun _ h => absurd h (by simp [AttemptView.fresh]), fun _ => rfl,
      fun h => absurd h (by simp [AttemptView.fresh, newRecord])⟩
  step := by
    intro a answer v w h hv
    cases h with
    | same => exact hv
    | superseded | registered | admitted | reported | completed | readied | cancelled =>
      exact ⟨hv.started, hv.allocation, hv.unallocated, hv.failure⟩
    | unleased h =>
      refine ⟨fun _ => by simp [provisionedRecord], hv.allocation, hv.unallocated, fun hkind => ?_⟩
      exact absurd (hkind.symm.trans h.unsettled) (by simp)
    | started h =>
      refine ⟨fun _ => by simp [provisionedRecord], ?_, fun hne => absurd hne (by simp), ?_⟩
      · intro operation hoperation
        cases hoperation
        exact iff_of_true h.unallocated rfl
      · exact fun hkind => absurd (hkind.symm.trans h.unsettled) (by simp)
    | renewed h => exact hv.of_operation h.owned rfl
    | takenOver _ howned => exact hv.of_operation howned rfl
    | handedOff h | uncertain h | evidenced _ _ h => exact hv.of_operation h.owned rfl
    | allocated _ h _ hnone =>
      have hobligation := (hv.allocation _ h.owned).mp hnone
      refine ⟨fun _ => ?_, ?_, fun hne => absurd hne (by simp), fun hkind => ?_⟩
      · dsimp only [allocatedRecord]
        split_ifs
        · simp
        · exact hv.started (by simp [h.owned])
      · intro stored hstored
        cases hstored
        simp [allocatedRecord]
      · -- a failed attempt has an allocation already
        obtain ⟨stored, hstored, hterminal⟩ := hv.failure hkind
        cases hstored.symm.trans h.owned
        exact absurd (hterminal.symm.trans hobligation) (by simp)
    | evolved h hstored =>
      refine ⟨hv.started, fun operation howned => ?_, fun hne => ?_, hv.failure⟩
      · have hobligation := hv.allocation operation howned
        simp only [hstored, reduceCtorEq, false_iff] at hobligation
        simpa using hobligation
      · exact absurd (h.owned.symm.trans hne) (by simp)
    | closed _ h =>
      have hne : SettlementKind.abandoned ≠ .infrastructureFailure := by simp
      exact (hv.of_settle hne).of_operation h.owned rfl
    | terminated h hallocated =>
      refine ⟨fun _ => hv.started (by simp [h.owned]), ?_, fun hne => absurd hne (by simp),
        fun _ => ⟨_, rfl, rfl⟩⟩
      intro stored hstored
      cases hstored
      simpa using hallocated
    | failed h _ _ hterminated =>
      exact ⟨fun _ => by simp [settleAttempt], hv.allocation, hv.unallocated,
        fun _ => ⟨_, h.owned, hterminated⟩⟩
    | committed =>
      have hw := hv.of_settle (show SettlementKind.outcome ≠ .infrastructureFailure by simp)
      exact ⟨hw.started, hw.allocation, hw.unallocated, hw.failure⟩
    | abandoned => exact hv.of_settle (by simp)

end Steps

/-! ### Fences -/

/-- The claim was handed out in the course of these calls. -/
def Issued {O : Type} (calls : List (Action × Answer O)) (claim : ProviderOperationClaim) : Prop :=
  ∃ a, (a, .ok (.started claim)) ∈ calls ∨ (a, .ok (.claimed claim)) ∈ calls

/-- The call takes the operation of the attempt over, or hands it off. -/
def Releases {O : Type} (a : Action) (answer : Answer O) (id : String) : Prop :=
  (∃ input token claim, a = .takeOverProviderOperation input token ∧
    answer = .ok (.claimed claim) ∧ input.executionAttemptId = id) ∨
  ∃ claim evidence, a = .handoffProviderOperation claim evidence ∧ answer = .ok .recorded ∧
    claim.executionAttemptId = id

/-- The operation is of a later generation than the claim, or of its generation without a token. -/
def Fenced (claim : ProviderOperationClaim) (v : AttemptView) : Prop :=
  ∃ operation, v.operation = some operation ∧ (claim.generation < operation.generation ∨
    claim.generation = operation.generation ∧ operation.token = none)

section Fences

variable {O : Type} {a : Action} {answer : Answer O} {v w : AttemptView}
variable {claim : ProviderOperationClaim}

/-- A fence stays. -/
lemma Fenced.of_step (h : Fenced claim v) (hstep : OperationStep v w) : Fenced claim w := by
  obtain ⟨operation, howned, hfence⟩ := h
  cases hstep with
  | kept hoperation => exact ⟨operation, hoperation.trans howned, hfence⟩
  | started hnone => exact absurd (howned.symm.trans hnone) (by simp)
  | updated operation₀ operation' hv hw hupdate =>
    cases hv.symm.trans howned
    refine ⟨operation', hw, ?_⟩
    rcases hupdate.generation with hlater | ⟨hsame, htoken⟩
    · left
      rcases hfence with hlt | ⟨heq, -⟩
      · exact hlt.trans hlater
      · exact heq ▸ hlater
    · rcases hfence with hlt | ⟨heq, hnone⟩
      · left
        rwa [hsame]
      · right
        refine ⟨heq.trans hsame.symm, ?_⟩
        rcases htoken with h | h
        · exact h.trans hnone
        · exact h

/-- No claim of a fenced generation is authorized. -/
lemma Fenced.not_authorized (h : Fenced claim v) : ¬ v.Authorized claim operation := by
  intro hauthorized
  obtain ⟨stored, howned, hfence⟩ := h
  cases howned.symm.trans hauthorized.owned
  have hmatching := hauthorized.matching
  simp only [matchesClaim, Bool.and_eq_true, decide_eq_true_eq] at hmatching
  rcases hfence with hlt | ⟨-, hnone⟩
  · exact absurd hmatching.1.2.symm hlt.ne
  · exact absurd (hmatching.1.1.symm.trans hnone) (by simp)

/-- A release fences every claim of the generations before. -/
lemma Fenced.of_release
    (hissued : ∃ operation, v.operation = some operation ∧ claim.generation ≤ operation.generation)
    (hrelease : Releases a answer v.record.executionAttemptId) (h : ViewStep a answer v w) :
    Fenced claim w := by
  obtain ⟨operation, howned, hle⟩ := hissued
  have hloud : ¬ Quiet answer := by
    rcases hrelease with ⟨_, _, _, -, rfl, -⟩ | ⟨_, _, -, rfl, -⟩ <;> simp [Quiet, Decision.writes]
  rcases hrelease with ⟨input, token, claim', rfl, rfl, hid⟩ | ⟨claim', evidence, rfl, rfl, hid⟩
  · cases h with
    | same hquiet => exact absurd (hquiet (congrArg some hid)) hloud
    | superseded hinput => exact absurd hinput (by simp [Action.inserts?])
    | takenOver _ hoperation =>
      cases howned.symm.trans hoperation
      exact ⟨_, rfl, Or.inl (Nat.lt_succ_of_le hle)⟩
    | evidenced hclaim => exact absurd hclaim (by simp [Action.claim?])
    | cancelled haction =>
      rcases haction with ⟨_, _, h, -⟩ | ⟨_, _, _, h, -⟩ <;> cases h
  · cases h with
    | same hquiet => exact absurd (hquiet (congrArg some hid)) hloud
    | superseded hinput => exact absurd hinput (by simp [Action.inserts?])
    | handedOff h =>
      cases howned.symm.trans h.owned
      refine ⟨_, rfl, ?_⟩
      rcases hle.lt_or_eq with hlt | heq
      · exact Or.inl hlt
      · exact Or.inr ⟨heq, rfl⟩
    | evidenced _ hanswer => rcases hanswer with h | h <;> cases h
    | allocated haction => rcases haction with h | h <;> cases h
    | closed hcloses => exact absurd hcloses (by simp [Action.closes?])
    | cancelled haction =>
      rcases haction with ⟨_, _, h, -⟩ | ⟨_, _, _, h, -⟩ <;> cases h

end Fences

/-! ### Runs -/

section Runs

variable {O : Type} (codec : OutcomeCodec O)
variable {id : String}
variable (as : List Action)

/-- The facts about claims hold after every run. -/
lemma claimFacts_run {v : AttemptView} (hv : (run codec Store.empty as).view id = some v) :
    ClaimFacts v :=
  view_run_invariant codec claimFacts_viewInvariant as hv

/-- What every operation record keeps. -/
def OperationKept (v w : AttemptView) : Prop :=
  ∀ operation, v.operation = some operation → ∃ operation', w.operation = some operation' ∧
    operation.generation ≤ operation'.generation ∧
    operation.obligation.rank ≤ operation'.obligation.rank ∧
    (operation.completionEvidence ≠ none →
      operation'.completionEvidence = operation.completionEvidence)

/-- A view that stays keeps its operation. -/
lemma OperationKept.refl (v : AttemptView) : OperationKept v v := fun operation howned =>
  ⟨operation, howned, le_rfl, le_rfl, fun _ => rfl⟩

/-- Operations are kept over two steps. -/
lemma OperationKept.trans {u v w : AttemptView} (h : OperationKept u v) (h' : OperationKept v w) :
    OperationKept u w := by
  intro operation howned
  obtain ⟨operation₁, h₁, hgeneration, hobligation, hevidence⟩ := h operation howned
  obtain ⟨operation₂, h₂, hgeneration', hobligation', hevidence'⟩ := h' operation₁ h₁
  refine ⟨operation₂, h₂, hgeneration.trans hgeneration', hobligation.trans hobligation', ?_⟩
  intro hne
  rw [hevidence' (by rwa [hevidence hne]), hevidence hne]

/-- A step of the operation keeps it. -/
lemma OperationKept.of_step {v w : AttemptView} (h : OperationStep v w) : OperationKept v w := by
  intro operation howned
  cases h with
  | kept hoperation => exact ⟨operation, hoperation.trans howned, le_rfl, le_rfl, fun _ => rfl⟩
  | started hnone => exact absurd (howned.symm.trans hnone) (by simp)
  | updated operation₀ operation' hv hw hupdate =>
    cases hv.symm.trans howned
    refine ⟨operation', hw, ?_, hupdate.obligation, hupdate.evidence⟩
    rcases hupdate.generation with hlater | ⟨hsame, -⟩
    · exact hlater.le
    · exact hsame.ge

/-- Between a run and any of its extensions an operation record keeps these. -/
lemma operationKept_run (bs : List Action) {v : AttemptView}
    (hv : (run codec Store.empty as).view id = some v) :
    ∃ w, (run codec Store.empty (as ++ bs)).view id = some w ∧ OperationKept v w :=
  view_run_extended codec claimFacts_viewInvariant OperationKept.refl OperationKept.trans
    (fun h hv => .of_step (operationStep_of_viewStep h hv)) as bs hv

variable {claim : ProviderOperationClaim}
variable {s : Store}

/-- A call that hands a claim out leaves an operation of the claim's generation.

**Proof sketch.** Only provisioning, renewal and takeover answer with a claim. -/
lemma issued_of_change {t : Store} {a : Action} {answer : Answer O} (h : Change s a answer t)
    (hanswer : answer = .ok (.started claim) ∨ answer = .ok (.claimed claim)) :
    ∃ operation, t.operations.get? claim.executionAttemptId = some operation ∧
      claim.generation ≤ operation.generation := by
  have hloud : ¬ Quiet answer := by
    rcases hanswer with rfl | rfl <;> simp [Quiet, Decision.writes]
  cases h with
  | unchanged hquiet | evidenceStored _ hquiet => exact absurd hquiet hloud
  | started =>
    obtain rfl : _ = claim := by simpa using hanswer
    exact ⟨_, OrderedMap.get?_set_self _ _ _, le_rfl⟩
  | renewed h =>
    obtain rfl : _ = claim := by simpa using hanswer
    refine ⟨_, OrderedMap.get?_set_self _ _ _, ?_⟩
    have hmatching := h.matching
    simp only [matchesClaim, Bool.and_eq_true, decide_eq_true_eq] at hmatching
    exact hmatching.1.2.ge
  | takenOver =>
    obtain rfl : _ = claim := by simpa using hanswer
    exact ⟨_, OrderedMap.get?_set_self _ _ _, le_rfl⟩
  | evidenced _ hanswer' | cancelled hanswer' =>
    rcases hanswer' with rfl | rfl <;> simp at hanswer
  | committed _ _ _ _ hanswer' =>
    rcases hanswer' with ⟨_, rfl⟩ | ⟨_, _, rfl⟩ <;> simp at hanswer
  | created | ensured | unleased | handedOff | uncertain | allocated | evolved | closed | terminated
  | failed | registered | admitted | reported | completed | readied | cancelledAll | abandoned =>
    simp at hanswer

/-- The operation is never behind a claim that was handed out. -/
lemma issued_le (h : Issued (history codec Store.empty as) claim) :
    ∃ v operation, (run codec Store.empty as).view claim.executionAttemptId = some v ∧
      v.operation = some operation ∧ claim.generation ≤ operation.generation := by
  obtain ⟨a, answer, hmem, hanswer⟩ : ∃ a answer, (a, answer) ∈ history codec Store.empty as ∧
      (answer = .ok (.started claim) ∨ answer = .ok (.claimed claim)) := by
    obtain ⟨a, hmem | hmem⟩ := h
    · exact ⟨a, _, hmem, Or.inl rfl⟩
    · exact ⟨a, _, hmem, Or.inr rfl⟩
  obtain ⟨bs, cs, rfl, rfl⟩ := mem_history codec as hmem
  have hs := wellFormed_run codec bs
  have hchange := execute_change codec hs.toKeyed a
  obtain ⟨operation, howned, hle⟩ := issued_of_change hchange hanswer
  obtain ⟨r, hr⟩ := (hs.of_change hchange).operations_known _ _ howned
  have hrun : run codec Store.empty (bs ++ [a]) =
      (execute codec (run codec Store.empty bs) a).1 := run_append codec bs [a] _
  have hview := view_of_get? hr
  rw [← hrun] at hview
  obtain ⟨w, hw, hkept⟩ := operationKept_run codec (bs ++ [a]) cs hview
  obtain ⟨operation', howned', hle', -, -⟩ := hkept operation (by rw [hrun]; exact howned)
  rw [List.append_assoc, List.singleton_append] at hw
  exact ⟨w, operation', hw, howned', hle.trans hle'⟩

/-- **A release fences every claim handed out before it**, at any later time. -/
theorem fenced_after_release (bs : List Action) (x : Action)
    (hissued : Issued (history codec Store.empty as) claim)
    (hrelease : Releases x (execute codec (run codec Store.empty as) x).2 claim.executionAttemptId) :
    ∃ v, (run codec Store.empty (as ++ x :: bs)).view claim.executionAttemptId = some v ∧
      Fenced claim v := by
  obtain ⟨v, operation, hv, howned, hle⟩ := issued_le codec as hissued
  have hs := wellFormed_run codec as
  have hid : v.record.executionAttemptId = claim.executionAttemptId :=
    hs.attempts _ _ (get?_of_view hv)
  obtain ⟨w, hw, hstep⟩ := view_execute codec hs x hv
  have hfenced : Fenced claim w :=
    .of_release ⟨operation, howned, hle⟩ (hid.symm ▸ hrelease) hstep
  have hrun : run codec Store.empty (as ++ [x]) = (execute codec (run codec Store.empty as) x).1 :=
    run_append codec as [x] _
  rw [← hrun] at hw
  obtain ⟨u, hu, hkept⟩ := view_run_extended codec claimFacts_viewInvariant
    (R := fun v w => Fenced claim v → Fenced claim w) (fun _ h => h) (fun h h' hu => h' (h hu))
    (fun h hv hf => hf.of_step (operationStep_of_viewStep h hv)) (as ++ [x]) bs hw
  rw [List.append_assoc, List.singleton_append] at hu
  exact ⟨u, hu, hkept hfenced⟩

/-- A fenced claim changes nothing. -/
lemma execute_of_fenced (hs : WellFormed s) {v : AttemptView} (hv : s.view claim.executionAttemptId = some v)
    (hfenced : Fenced claim v) {a : Action} (hclaim : a.claim? = some claim) : (execute codec s a).1 = s := by
  rcases (execute_change codec hs.toKeyed a).of_claim hclaim with heq | ⟨attempt, operation, h⟩
  · exact heq
  · have hid : v.record.executionAttemptId = claim.executionAttemptId :=
      hs.attempts _ _ (get?_of_view hv)
    exact absurd (h.view hv hid).2 hfenced.not_authorized

/-- A step to terminal convergence records the termination. -/
lemma terminated_of_viewStep {a : Action} {answer : Answer O} {v w : AttemptView} (h : ViewStep a answer v w)
    (howned : w.operation = some operation) (hterminal : operation.obligation = .terminalConvergence) :
    (∃ operation, v.operation = some operation ∧ operation.obligation = .terminalConvergence) ∨
      ∃ claim evidence, a = .recordAllocationTerminated claim evidence ∧ answer = .ok .recorded ∧
        claim.executionAttemptId = v.record.executionAttemptId := by
  cases h with
  | same | superseded | unleased | evolved | failed | registered | admitted | reported | completed
  | readied | cancelled | committed | abandoned => exact Or.inl ⟨operation, howned, hterminal⟩
  | started | allocated =>
    cases howned
    exact absurd hterminal (by simp [startedOperation])
  | renewed h | handedOff h | uncertain h | evidenced _ _ h | closed _ h =>
    cases howned
    exact Or.inl ⟨_, h.owned, hterminal⟩
  | takenOver _ hoperation =>
    cases howned
    exact Or.inl ⟨_, hoperation, hterminal⟩
  | terminated h => exact Or.inr ⟨_, _, rfl, rfl, h.target⟩

/-- Terminal convergence was recorded by one of these calls. -/
def TerminationRecorded (calls : List (Action × Answer O)) (s : Store) : Prop :=
  ∀ id v operation, s.view id = some v → v.operation = some operation →
    operation.obligation = .terminalConvergence →
    ∃ claim evidence, (.recordAllocationTerminated claim evidence, .ok .recorded) ∈ calls ∧
      claim.executionAttemptId = id

/-- Terminations are recorded after one more call. -/
lemma TerminationRecorded.of_execute {calls : List (Action × Answer O)} (hs : WellFormed s)
    (hcalls : TerminationRecorded calls s) (a : Action) :
    TerminationRecorded (calls ++ [(a, (execute codec s a).2)]) (execute codec s a).1 := by
  intro id w operation hw howned hterminal
  cases hv : s.view id with
  | none =>
    obtain ⟨_, _, _, -, -, -, rfl⟩ := view_execute_new codec hs a hv hw
    exact absurd howned (by simp [AttemptView.fresh])
  | some v =>
    obtain ⟨w', hw', hstep⟩ := view_execute codec hs a hv
    cases hw.symm.trans hw'
    rcases terminated_of_viewStep hstep howned hterminal with
      ⟨operation₀, howned₀, hterminal₀⟩ | ⟨claim, evidence, rfl, hanswer, hid⟩
    · obtain ⟨claim, evidence, hmem, hid⟩ := hcalls id v operation₀ hv howned₀ hterminal₀
      exact ⟨claim, evidence, List.mem_append_left _ hmem, hid⟩
    · refine ⟨claim, evidence, ?_, hid.trans (hs.attempts id _ (get?_of_view hv))⟩
      rw [hanswer]
      simp

/-- Terminal convergence is recorded by a call of the run. -/
lemma terminationRecorded_run :
    TerminationRecorded (history codec Store.empty as) (run codec Store.empty as) := by
  have hstart : WellFormed Store.empty ∧ TerminationRecorded (O := O) [] Store.empty :=
    ⟨wellFormed_empty, fun id v _ hv => absurd hv (by simp [Store.view, Store.empty])⟩
  have hstep : ∀ (calls : List (Action × Answer O)) s a,
      (WellFormed s ∧ TerminationRecorded calls s) → WellFormed (execute codec s a).1 ∧
        TerminationRecorded (calls ++ [(a, (execute codec s a).2)]) (execute codec s a).1 :=
    fun calls s a h => ⟨wellFormed_execute codec h.1 a, h.2.of_execute codec h.1 a⟩
  exact (history_invariant codec hstart hstep as).2

/-- A takeover that is answered with a claim begins the next generation. -/
lemma takeover_generation (hs : WellFormed s) {input : TakeOverProviderOperationInput} {token : String}
    (h : (execute codec s (.takeOverProviderOperation input token)).2 = .ok (.claimed claim)) :
    ∃ operation operation', s.operations.get? input.executionAttemptId = some operation ∧
      (execute codec s (.takeOverProviderOperation input token)).1.operations.get?
        input.executionAttemptId = some operation' ∧
      operation'.generation = operation.generation + 1 ∧ claim.generation = operation'.generation ∧
      claim.executionAttemptId = input.executionAttemptId := by
  have hchange := execute_change codec hs.toKeyed (.takeOverProviderOperation input token)
  revert h hchange
  generalize (execute codec s (.takeOverProviderOperation input token)).2 = answer
  generalize (execute codec s (.takeOverProviderOperation input token)).1 = t
  intro h hchange
  subst h
  cases hchange with
  | unchanged hquiet | evidenceStored _ hquiet => exact absurd hquiet (by simp [Quiet, Decision.writes])
  | takenOver _ hoperation =>
    exact ⟨_, _, hoperation, OrderedMap.get?_set_self _ _ _, rfl, rfl, rfl⟩
  | evidenced hclaim => exact absurd hclaim (by simp [Action.claim?])

/-- **Claims are fenced**: along every run from the empty store

* an operation's generation and obligation never go back, and completion evidence stays once written;
* a takeover that answers with a claim raises the generation by one;
* after a takeover or a handoff, no call presented with a claim handed out before writes anything, at any
  later time;
* the allocation reference is missing exactly while the obligation is provisioning resolution;
* an attempt is settled as an infrastructure failure only after its termination was recorded.

**Proof sketch.** Claims are handed out with the generation of the operation at that time.  A takeover
raises the generation, a handoff clears the token until the next takeover, and authorization compares
both; this needs no assumption on the tokens drawn. -/
theorem claim_fencing (as : List Action) :
    let s := run codec Store.empty as
    (∀ bs id operation, s.operations.get? id = some operation →
      ∃ operation', (run codec Store.empty (as ++ bs)).operations.get? id = some operation' ∧
        operation.generation ≤ operation'.generation ∧
        operation.obligation.rank ≤ operation'.obligation.rank ∧
        (operation.completionEvidence ≠ none →
          operation'.completionEvidence = operation.completionEvidence)) ∧
    (∀ input token claim,
      (execute codec s (.takeOverProviderOperation input token)).2 = .ok (.claimed claim) →
      ∃ operation operation', s.operations.get? input.executionAttemptId = some operation ∧
        (execute codec s (.takeOverProviderOperation input token)).1.operations.get?
          input.executionAttemptId = some operation' ∧
        operation'.generation = operation.generation + 1 ∧
        claim.generation = operation'.generation ∧
        claim.executionAttemptId = input.executionAttemptId) ∧
    (∀ claim x bs a, Issued (history codec Store.empty as) claim →
      Releases x (execute codec s x).2 claim.executionAttemptId → a.claim? = some claim →
      let t := run codec Store.empty (as ++ x :: bs)
      (execute codec t a).1 = t) ∧
    (∀ id r operation, s.attempts.get? id = some r → s.operations.get? id = some operation →
      (r.allocationRef = none ↔ operation.obligation = .provisioningResolution)) ∧
    (∀ id r, s.attempts.get? id = some r → s.operations.get? id = none → r.allocationRef = none) ∧
    ∀ id r, s.attempts.get? id = some r → r.settlementKind = some .infrastructureFailure →
      ∃ claim evidence, (.recordAllocationTerminated claim evidence, .ok .recorded) ∈
        history codec Store.empty as ∧ claim.executionAttemptId = id := by
  intro s
  have hs : WellFormed s := wellFormed_run codec as
  refine ⟨?_, fun input token claim h => takeover_generation codec hs h, ?_, ?_, ?_, ?_⟩
  · intro bs id operation howned
    obtain ⟨r, hr⟩ := hs.operations_known id operation howned
    obtain ⟨w, hw, hkept⟩ := operationKept_run codec as bs (view_of_get? hr)
    obtain ⟨operation', howned', h⟩ := hkept operation howned
    exact ⟨operation', (operation_of_view hw).symm.trans howned', h⟩
  · intro claim x bs a hissued hrelease hclaim
    obtain ⟨v, hv, hfenced⟩ := fenced_after_release codec as bs x hissued hrelease
    exact execute_of_fenced codec (wellFormed_run codec _) hv hfenced hclaim
  · intro id r operation hr howned
    exact (claimFacts_run codec as (view_of_get? hr)).allocation operation howned
  · intro id r hr hnone
    exact (claimFacts_run codec as (view_of_get? hr)).unallocated hnone
  · intro id r hr hkind
    obtain ⟨operation, howned, hterminal⟩ :=
      (claimFacts_run codec as (view_of_get? hr)).failure hkind
    exact terminationRecorded_run codec as id _ operation (view_of_get? hr) howned hterminal

end Runs

end Makaio.Attempts
