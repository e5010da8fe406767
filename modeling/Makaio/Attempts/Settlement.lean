import Makaio.Attempts.AttemptView

set_option autoImplicit false

/-!
# Settlement is final

An attempt is settled by a committed outcome, by abandonment or by an infrastructure failure.  Five
operations settle, a dozen others rewrite the record, and none of them undoes or rewrites a settlement.

## Main definitions

* `SettlementFacts` — how status, settlement kind, outcome and observation go together.
* `SettlementStep` — what a step does to them.

## Main results

* `settlementFacts_run` — the facts agree after every run.
* `settlement_irreversible` — a settlement stays as it is, and reading it never finds it
  corrupt.
-/

namespace Makaio.Attempts

open Foundations

/-- The settlement facts of an attempt agree. -/
structure SettlementFacts (v : AttemptView) : Prop where
  status : v.record.status = .settled ↔ v.record.settlementKind ≠ none
  outcome : v.outcome ≠ none ↔ v.record.settlementKind = some .outcome
  observation : v.observation ≠ none ↔ v.outcome ≠ none

/-- What a step does to the settlement facts. -/
inductive SettlementStep (v w : AttemptView) : Prop
  | kept (hkind : w.record.settlementKind = v.record.settlementKind)
      (hstatus : w.record.status = .settled ↔ v.record.status = .settled)
      (houtcome : w.outcome = v.outcome) (hobservation : w.observation = v.observation)
  /-- A settlement without an outcome. -/
  | settled (kind : SettlementKind) (hunsettled : v.record.settlementKind = none)
      (hkind : w.record.settlementKind = some kind) (hne : kind ≠ .outcome)
      (hstatus : w.record.status = .settled) (houtcome : w.outcome = v.outcome)
      (hobservation : w.observation = v.observation)
  | committed (text : String) (observation : AttemptOutcomeControlObservation)
      (hunsettled : v.record.settlementKind = none) (hkind : w.record.settlementKind = some .outcome)
      (hstatus : w.record.status = .settled) (houtcome : w.outcome = some text)
      (hobservation : w.observation = some observation)

section Steps

variable {O : Type} {a : Action} {answer : Answer O} {v w : AttemptView}

/-- A step keeps the settlement facts or settles an unsettled attempt. -/
lemma settlementStep_of_viewStep (h : ViewStep a answer v w) (hv : SettlementFacts v) :
    SettlementStep v w := by
  cases h with
  | same | superseded | renewed | takenOver | handedOff | uncertain | evidenced | evolved
  | terminated | registered | admitted | reported | completed | readied | cancelled =>
    exact .kept rfl Iff.rfl rfl rfl
  | unleased h | started h =>
    refine .kept rfl ?_ rfl rfl
    simp [provisionedRecord, h.pending]
  | allocated =>
    refine .kept rfl ?_ rfl rfl
    dsimp only [allocatedRecord]
    split_ifs with hkind
    · simp [hv.status, hkind]
    · exact Iff.rfl
  | closed _ _ _ hunsettled => exact .settled .abandoned hunsettled rfl (by simp) rfl rfl rfl
  | failed _ hunsettled => exact .settled .infrastructureFailure hunsettled rfl (by simp) rfl rfl rfl
  | committed _ _ hunsettled => exact .committed _ _ hunsettled rfl rfl rfl rfl
  | abandoned _ _ hpending =>
    have hunsettled : v.record.settlementKind = none := by
      have hnot : ¬ v.record.status = .settled := by simp [hpending]
      simpa using mt hv.status.mpr hnot
    exact .settled .abandoned hunsettled rfl (by simp) rfl rfl rfl

/-- The facts agree after a step. -/
lemma SettlementFacts.of_step (hv : SettlementFacts v) (h : SettlementStep v w) :
    SettlementFacts w := by
  cases h with
  | kept hkind hstatus houtcome hobservation =>
    refine ⟨?_, ?_, ?_⟩
    · rw [hstatus, hkind, hv.status]
    · rw [houtcome, hkind, hv.outcome]
    · rw [hobservation, houtcome, hv.observation]
  | settled kind hunsettled hkind hne hstatus houtcome hobservation =>
    refine ⟨?_, ?_, ?_⟩
    · simp [hstatus, hkind]
    · rw [houtcome, hv.outcome, hunsettled, hkind]
      simpa using hne
    · rw [hobservation, houtcome, hv.observation]
  | committed text observation _ hkind hstatus houtcome hobservation =>
    refine ⟨?_, ?_, ?_⟩
    · simp [hstatus, hkind]
    · simp [houtcome, hkind]
    · simp [hobservation, houtcome]

/-- Every step keeps the facts about settlement. -/
lemma settlementFacts_viewInvariant : ViewInvariant O SettlementFacts where
  fresh := fun input createdAt deadline => by
    constructor <;> simp [AttemptView.fresh, newRecord]
  step := fun h hv => hv.of_step (settlementStep_of_viewStep h hv)

/-- What stays of a settlement. -/
structure SettlementKept (v w : AttemptView) : Prop where
  kind : v.record.settlementKind ≠ none → w.record.settlementKind = v.record.settlementKind
  outcome : v.outcome ≠ none → w.outcome = v.outcome ∧ w.observation = v.observation

/-- A view that stays keeps its settlement. -/
lemma SettlementKept.refl (v : AttemptView) : SettlementKept v v := ⟨fun _ => rfl, fun _ => ⟨rfl, rfl⟩⟩

/-- Settlements are kept over two steps. -/
lemma SettlementKept.trans {u : AttemptView} (h : SettlementKept u v) (h' : SettlementKept v w) :
    SettlementKept u w where
  kind := fun hu => by rw [h'.kind (by rwa [h.kind hu]), h.kind hu]
  outcome := fun hu => by
    obtain ⟨h₁, h₂⟩ := h.outcome hu
    obtain ⟨h₃, h₄⟩ := h'.outcome (by rwa [h₁])
    exact ⟨h₃.trans h₁, h₄.trans h₂⟩

/-- A step keeps a settlement. -/
lemma settlementKept_of_viewStep (h : ViewStep a answer v w) (hv : SettlementFacts v) :
    SettlementKept v w := by
  cases settlementStep_of_viewStep h hv with
  | kept hkind _ houtcome hobservation => exact ⟨fun _ => hkind, fun _ => ⟨houtcome, hobservation⟩⟩
  | settled _ hunsettled _ _ _ houtcome hobservation =>
    exact ⟨fun hne => absurd hunsettled hne, fun _ => ⟨houtcome, hobservation⟩⟩
  | committed _ _ hunsettled =>
    refine ⟨fun hne => absurd hunsettled hne, fun hne => ?_⟩
    rw [hv.outcome, hunsettled] at hne
    cases hne

end Steps

section Runs

variable {O : Type} (codec : OutcomeCodec O)

/-- **The settlement facts agree after every run.** -/
theorem settlementFacts_run (as : List Action) {id : String} {v : AttemptView}
    (hv : (run codec Store.empty as).view id = some v) : SettlementFacts v :=
  view_run_invariant codec settlementFacts_viewInvariant as hv

/-- Agreeing facts are not corrupt. -/
lemma readAttemptSettlementSnapshot_of_facts {v : AttemptView} (hv : SettlementFacts v)
    (input : OwnedAttempt) (hid : v.record.executionAttemptId = input.executionAttemptId)
    (activeAttemptId : Option String) (observation : Option AttemptOutcomeControlObservation) :
    readAttemptSettlementSnapshot codec input (some v.record) activeAttemptId v.outcome observation ≠
        .error .corruptSettlementIdentity ∧
      readAttemptSettlementSnapshot codec input (some v.record) activeAttemptId v.outcome
        observation ≠ .error .corruptSettlementFacts := by
  have hstatus := hv.status
  have houtcome := hv.outcome
  unfold readAttemptSettlementSnapshot
  dsimp only
  rw [if_neg (not_not.mpr hid)]
  split_ifs
  · simp
  · cases hkind : v.record.settlementKind with
    | none =>
      have hunsettled : v.record.status ≠ .settled := fun h => hstatus.mp h hkind
      have hnone : v.outcome = none := by
        rw [hkind] at houtcome
        simpa using houtcome
      rw [hnone]
      cases h : v.record.status with
      | settled => exact absurd h hunsettled
      | pending | provisioning | allocated => simp
    | some kind =>
      have hsettled : v.record.status = .settled := hstatus.mpr (by simp [hkind])
      rw [hkind] at houtcome
      rw [hsettled]
      cases kind with
      | outcome =>
        obtain ⟨text, htext⟩ := Option.ne_none_iff_exists'.mp (houtcome.mpr rfl)
        rw [htext]
        dsimp only
        split <;> simp
      | abandoned | infrastructureFailure =>
        have hnone : v.outcome = none := by simpa using houtcome
        simp [hnone]

/-- The observation of a view is the stored one. -/
lemma observation_of_view {s : Store} {id : String} {v : AttemptView} (hv : s.view id = some v) :
    v.observation = s.outcomeControlObservations.get? id := by
  obtain ⟨r, -, rfl⟩ := Option.map_eq_some_iff.mp hv
  rfl

/-- Reading a settlement finds facts that agree. -/
theorem readAttemptSettlement_not_corrupt (as : List Action) (input : OwnedAttempt) :
    readAttemptSettlement codec (run codec Store.empty as) input ≠ .error .corruptSettlementIdentity ∧
      readAttemptSettlement codec (run codec Store.empty as) input ≠
        .error .corruptSettlementFacts := by
  have hs := wellFormed_run codec as
  unfold readAttemptSettlement requireIdentity
  split_ifs
  · simp
  · simp
  · simp
  · cases hattempt : (run codec Store.empty as).attempts.get? input.executionAttemptId with
    | none => simp [readAttemptSettlementSnapshot]
    | some r =>
      have hv := view_of_get? hattempt
      have hfacts := settlementFacts_run codec as hv
      exact readAttemptSettlementSnapshot_of_facts codec hfacts input (hs.attempts _ _ hattempt) _ _

/-- **Settlement is irreversible**: along every run from the empty store a settlement kind, a committed
text and the observation committed with it stay as they are; the status is settled exactly when there is a
kind, a text is there exactly when the kind is `outcome`, and no read reports a corrupt settlement.

**Proof sketch.** Each step keeps the facts or settles an unsettled attempt; an attempt without a kind has
no text, so the kind and the text are each written once. -/
theorem settlement_irreversible (as bs : List Action) :
    let s := run codec Store.empty as
    let t := run codec Store.empty (as ++ bs)
    (∀ id r kind, s.attempts.get? id = some r → r.settlementKind = some kind →
      ∃ r', t.attempts.get? id = some r' ∧ r'.settlementKind = some kind) ∧
    (∀ id text, s.committedOutcomes.get? id = some text → t.committedOutcomes.get? id = some text) ∧
    (∀ id observation, s.outcomeControlObservations.get? id = some observation →
      t.outcomeControlObservations.get? id = some observation) ∧
    (∀ id r, s.attempts.get? id = some r → (r.status = .settled ↔ r.settlementKind ≠ none)) ∧
    (∀ id, s.committedOutcomes.get? id ≠ none ↔
      ∃ r, s.attempts.get? id = some r ∧ r.settlementKind = some .outcome) ∧
    (∀ id, s.outcomeControlObservations.get? id ≠ none ↔ s.committedOutcomes.get? id ≠ none) ∧
    ∀ input, readAttemptSettlement codec s input ≠ .error .corruptSettlementIdentity ∧
      readAttemptSettlement codec s input ≠ .error .corruptSettlementFacts := by
  intro s t
  have hs : WellFormed s := wellFormed_run codec as
  have hfacts : ∀ {id r}, s.attempts.get? id = some r → SettlementFacts _ := fun hr =>
    settlementFacts_run codec as (view_of_get? hr)
  have hkept : ∀ {id v}, s.view id = some v → ∃ w, t.view id = some w ∧ SettlementKept v w :=
    fun hv => view_run_extended codec settlementFacts_viewInvariant SettlementKept.refl
      SettlementKept.trans settlementKept_of_viewStep as bs hv
  -- the entries of an id that has one belong to an attempt
  have houtcome : ∀ id text, s.committedOutcomes.get? id = some text →
      t.committedOutcomes.get? id = some text ∧
        t.outcomeControlObservations.get? id = s.outcomeControlObservations.get? id := by
    intro id text htext
    obtain ⟨r, hr⟩ := hs.outcomes_known id text htext
    have hv := view_of_get? hr
    obtain ⟨w, hw, h⟩ := hkept hv
    obtain ⟨h₁, h₂⟩ := h.outcome (by simp [htext])
    exact ⟨(outcome_of_view hw).symm.trans (h₁.trans htext), (observation_of_view hw).symm.trans h₂⟩
  have hobserved : ∀ id,
      s.outcomeControlObservations.get? id ≠ none ↔ s.committedOutcomes.get? id ≠ none := by
    intro id
    constructor
    · intro hne
      obtain ⟨observation, hobservation⟩ := Option.ne_none_iff_exists'.mp hne
      obtain ⟨r, hr⟩ := hs.observations_known id observation hobservation
      exact (hfacts hr).observation.mp hne
    · intro hne
      obtain ⟨text, htext⟩ := Option.ne_none_iff_exists'.mp hne
      obtain ⟨r, hr⟩ := hs.outcomes_known id text htext
      exact (hfacts hr).observation.mpr hne
  refine ⟨?_, fun id text htext => (houtcome id text htext).1, ?_, ?_, ?_, hobserved,
    readAttemptSettlement_not_corrupt codec as⟩
  · intro id r kind hr hkind
    obtain ⟨w, hw, h⟩ := hkept (view_of_get? hr)
    exact ⟨w.record, get?_of_view hw, (h.kind (by simp [hkind])).trans hkind⟩
  · intro id observation hobservation
    obtain ⟨text, htext⟩ := Option.ne_none_iff_exists'.mp
      ((hobserved id).mp (by simp [hobservation]))
    exact (houtcome id text htext).2.trans hobservation
  · exact fun id r hr => (hfacts hr).status
  · intro id
    constructor
    · intro hne
      obtain ⟨text, htext⟩ := Option.ne_none_iff_exists'.mp hne
      obtain ⟨r, hr⟩ := hs.outcomes_known id text htext
      exact ⟨r, hr, (hfacts hr).outcome.mp hne⟩
    · rintro ⟨r, hr, hkind⟩
      exact (hfacts hr).outcome.mpr hkind

end Runs

end Makaio.Attempts
