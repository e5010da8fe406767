import Makaio.Attempts.Effects

set_option autoImplicit false

/-!
# Well-formed stores

The maps of the attempt repository refer to one another by attempt id.  Records stand under their own
ids, no map speaks of an attempt that does not exist, and the pointer of an execution names one of its
attempts.  Every write keeps this.

## Main definitions

* `WellFormed` — records under their own ids, nothing about unknown attempts, pointers to
  attempts of their owner.

## Main results

* `foldl_recordCancellation` — an owner-wide cancellation, attempt by attempt.
* `wellFormed_execute`, `wellFormed_run` — every call and every run keep a
  store well formed.
-/

namespace Makaio.Attempts

open Foundations

/-- What holds of every store a run produces. -/
structure WellFormed (s : Store) : Prop extends Keyed s where
  operations_known : ∀ id r, s.operations.get? id = some r → ∃ r, s.attempts.get? id = some r
  cancellations_known : ∀ id r, s.cancellations.get? id = some r → ∃ r, s.attempts.get? id = some r
  outcomes_known : ∀ id r, s.committedOutcomes.get? id = some r → ∃ r, s.attempts.get? id = some r
  observations_known : ∀ id r, s.outcomeControlObservations.get? id = some r →
    ∃ r, s.attempts.get? id = some r
  pointer : ∀ e id, s.activeAttempts.get? e = some id →
    ∃ r, s.attempts.get? id = some r ∧ r.executionId = e

/-- The record under an id is overwritten by one of the same attempt. -/
structure SameAttempt (r r' : ExecutionAttemptRecord) : Prop where
  id : r'.executionAttemptId = r.executionAttemptId
  execution : r'.executionId = r.executionId

section WellFormedness

variable {s : Store}

/-- The empty store is well-formed. -/
lemma wellFormed_empty : WellFormed Store.empty where
  attempts := fun _ _ h => absurd h (by simp [Store.empty])
  operations := fun _ _ h => absurd h (by simp [Store.empty])
  operations_known := fun _ _ h => absurd h (by simp [Store.empty])
  cancellations_known := fun _ _ h => absurd h (by simp [Store.empty])
  outcomes_known := fun _ _ h => absurd h (by simp [Store.empty])
  observations_known := fun _ _ h => absurd h (by simp [Store.empty])
  pointer := fun _ _ h => absurd h (by simp [Store.empty])

variable {r : ExecutionAttemptRecord} {id : String}

/-- Attempts are never dropped by a write. -/
lemma exists_setAttempt {id' : String} (h : ∃ r, s.attempts.get? id' = some r) :
    ∃ r', (s.setAttempt id r).attempts.get? id' = some r' := by
  rw [Store.setAttempt]
  rw [OrderedMap.get?_set]
  split_ifs
  · exact ⟨r, rfl⟩
  · exact h

/-- A record may be replaced by one of the same attempt. -/
lemma WellFormed.of_setAttempt (hs : WellFormed s) {r r' : ExecutionAttemptRecord}
    (hr : s.attempts.get? id = some r) (hsame : SameAttempt r r') : WellFormed (s.setAttempt id r') where
  attempts := by
    intro id' r'' h
    rw [Store.setAttempt] at h
    rw [OrderedMap.get?_set] at h
    split_ifs at h with hid
    · cases h
      rw [hsame.id, hs.attempts id r hr, hid]
    · exact hs.attempts id' r'' h
  operations := hs.operations
  operations_known := fun id' r h => exists_setAttempt (hs.operations_known id' r h)
  cancellations_known := fun id' r h => exists_setAttempt (hs.cancellations_known id' r h)
  outcomes_known := fun id' r h => exists_setAttempt (hs.outcomes_known id' r h)
  observations_known := fun id' r h => exists_setAttempt (hs.observations_known id' r h)
  pointer := by
    intro e id' h
    obtain ⟨r₀, hr₀, hexecution⟩ := hs.pointer e id' h
    rw [Store.setAttempt]
    rw [OrderedMap.get?_set]
    split_ifs with hid
    · subst hid
      cases hr₀.symm.trans hr
      exact ⟨r', rfl, hsame.execution.trans hexecution⟩
    · exact ⟨r₀, hr₀, hexecution⟩

variable {operation : ProviderOperationOwnershipRecord}

/-- An operation may be stored with its attempt. -/
lemma WellFormed.of_setOperation (hs : WellFormed s) (hr : s.attempts.get? id = some r)
    (hid : operation.executionAttemptId = id) :
    WellFormed (s.setOperation id operation) where
  attempts := hs.attempts
  operations := by
    intro id' r' h
    rw [Store.setOperation] at h
    rw [OrderedMap.get?_set] at h
    split_ifs at h with hid'
    · cases h
      rw [hid, hid']
    · exact hs.operations id' r' h
  operations_known := by
    intro id' r' h
    rw [Store.setOperation] at h
    rw [OrderedMap.get?_set] at h
    split_ifs at h with hid'
    · exact ⟨r, hid' ▸ hr⟩
    · exact hs.operations_known id' r' h
  cancellations_known := hs.cancellations_known
  outcomes_known := hs.outcomes_known
  observations_known := hs.observations_known
  pointer := hs.pointer

/-- The operation of an attempt is overwritten by one of the same attempt. -/
lemma WellFormed.of_updateOperation (hs : WellFormed s) {operation' : ProviderOperationOwnershipRecord}
    (hoperation : s.operations.get? id = some operation)
    (hsame : operation'.executionAttemptId = operation.executionAttemptId) :
    WellFormed (s.setOperation id operation') := by
  obtain ⟨r, hr⟩ := hs.operations_known id operation hoperation
  exact hs.of_setOperation hr (hsame.trans (hs.operations id operation hoperation))

/-- A cancellation may be recorded with its attempt. -/
lemma WellFormed.of_recordCancellation (hs : WellFormed s) (hr : s.attempts.get? id = some r)
    (intent : ExecutionAttemptCancellationIntent) {r₀ : ExecutionAttemptRecord} (hsame : SameAttempt r r₀) :
    WellFormed (recordCancellation s id r₀ intent) := by
  refine WellFormed.of_setAttempt (r := r) (s := { s with
    cancellations := s.cancellations.set id intent }) ?_ hr ⟨hsame.id, hsame.execution⟩
  refine { hs with cancellations_known := fun id' i h => ?_ }
  rw [OrderedMap.get?_set] at h
  split_ifs at h with hid
  · exact ⟨r, hid ▸ hr⟩
  · exact hs.cancellations_known id' i h

/-- The record of an attempt that a newer one replaces. -/
def supersededRecord (r : ExecutionAttemptRecord) : ExecutionAttemptRecord :=
  { r with
    claimable := if r.status = .allocated then false else r.claimable
    operationStartGate := .closed }

/-- Superseding writes the attempt the pointer names, if there is one. -/
lemma WellFormed.supersede_cases (hs : WellFormed s) (e : String) :
    (s.activeAttempts.get? e = none ∧ supersede s e = s) ∨
      ∃ id r, s.activeAttempts.get? e = some id ∧ s.attempts.get? id = some r ∧ r.executionId = e ∧
        supersede s e = s.setAttempt id (supersededRecord r) := by
  unfold supersede
  cases hpointer : s.activeAttempts.get? e with
  | none => exact Or.inl ⟨rfl, rfl⟩
  | some id =>
    obtain ⟨r, hr, hexecution⟩ := hs.pointer e id hpointer
    right
    refine ⟨id, r, rfl, hr, hexecution, ?_⟩
    rw [Option.bind_some, hr]
    dsimp only
    rw [hs.setAttempt_eq hr]
    rfl

/-- The active attempt may be superseded. -/
lemma WellFormed.of_supersede (hs : WellFormed s) (e : String) : WellFormed (supersede s e) := by
  rcases hs.supersede_cases e with ⟨-, h⟩ | ⟨id, r, -, hr, -, h⟩
  · rw [h]
    exact hs
  · rw [h]
    exact hs.of_setAttempt hr ⟨rfl, rfl⟩

/-- Superseding keeps the ids and touches no other map. -/
lemma WellFormed.supersede_frame (hs : WellFormed s) (e : String) :
    (∀ id, (supersede s e).attempts.get? id = none ↔ s.attempts.get? id = none) ∧
      (supersede s e).operations = s.operations ∧
      (supersede s e).committedOutcomes = s.committedOutcomes ∧
      (supersede s e).outcomeControlObservations = s.outcomeControlObservations ∧
      (supersede s e).activeAttempts = s.activeAttempts ∧
      (supersede s e).requestBindings = s.requestBindings ∧
      (supersede s e).cancellations = s.cancellations := by
  rcases hs.supersede_cases e with ⟨-, h⟩ | ⟨id, r, -, hr, -, h⟩
  · rw [h]
    exact ⟨fun _ => Iff.rfl, rfl, rfl, rfl, rfl, rfl, rfl⟩
  · rw [h]
    refine ⟨fun id' => ?_, rfl, rfl, rfl, rfl, rfl, rfl⟩
    rw [Store.setAttempt]
    rw [OrderedMap.get?_set]
    split_ifs with hid
    · simp [hid, hr]
    · exact Iff.rfl

/-- A fresh record becomes the active attempt of its owner. -/
lemma WellFormed.of_insertedStore (hs : WellFormed s) {input : ExecutionAttemptCreate}
    {createdAt deadline : Instant} (hfresh : s.attempts.get? input.executionAttemptId = none) :
    WellFormed (insertedStore s input (newRecord input createdAt deadline)) := by
  have hs' := hs.of_supersede input.executionId
  have hfresh' := ((hs.supersede_frame input.executionId).1 _).mpr hfresh
  unfold insertedStore
  generalize supersede s input.executionId = s' at hs' hfresh'
  constructor
  · constructor
    · intro id r h
      rw [Store.setAttempt] at h
      rw [OrderedMap.get?_set] at h
      split_ifs at h with hid
      · cases h
        exact hid.symm
      · exact hs'.attempts id r h
    · exact hs'.operations
  · exact fun id r h => exists_setAttempt (hs'.operations_known id r h)
  · exact fun id r h => exists_setAttempt (hs'.cancellations_known id r h)
  · exact fun id r h => exists_setAttempt (hs'.outcomes_known id r h)
  · exact fun id r h => exists_setAttempt (hs'.observations_known id r h)
  · intro e id h
    simp only [Store.setAttempt, OrderedMap.get?_set] at h ⊢
    split_ifs at h with he
    · cases h
      exact ⟨_, if_pos rfl, he.symm⟩
    · obtain ⟨r, hr, hexecution⟩ := hs'.pointer e id h
      refine ⟨r, ?_, hexecution⟩
      rw [if_neg]
      · exact hr
      · rintro rfl
        exact absurd (hr.symm.trans hfresh') (by simp)

variable {decisions : List (String × ExecutionAttemptRecord × ExecutionAttemptCancellationIntent)}

/-- An owner-wide cancellation, attempt by attempt. -/
lemma foldl_recordCancellation (hnodup : (decisions.map Prod.fst).Nodup) :
    ∀ {s : Store}, (∀ d ∈ decisions, s.attempts.get? d.1 = some d.2.1) →
      let t := decisions.foldl (fun s d => recordCancellation s d.1 d.2.1 d.2.2) s
      (∀ d ∈ decisions, t.attempts.get? d.1 = some { d.2.1 with operationStartGate := .closed } ∧
          t.cancellations.get? d.1 = some d.2.2) ∧
        (∀ id, (∀ d ∈ decisions, d.1 ≠ id) → t.attempts.get? id = s.attempts.get? id ∧
          t.cancellations.get? id = s.cancellations.get? id) ∧
        t.operations = s.operations ∧ t.committedOutcomes = s.committedOutcomes ∧
        t.outcomeControlObservations = s.outcomeControlObservations ∧
        t.activeAttempts = s.activeAttempts ∧ t.requestBindings = s.requestBindings ∧
        (WellFormed s → WellFormed t) := by
  induction decisions with
  | nil =>
    intro s _
    exact ⟨fun d hd => absurd hd (by simp), fun id _ => ⟨rfl, rfl⟩, rfl, rfl, rfl, rfl, rfl, id⟩
  | cons d decisions ih =>
    intro s hs
    obtain ⟨hd, hnodup⟩ := List.nodup_cons.mp hnodup
    have hne : ∀ d' ∈ decisions, d'.1 ≠ d.1 := fun d' hd' h =>
      hd (List.mem_map.mpr ⟨d', hd', h⟩)
    have hget : ∀ id, (recordCancellation s d.1 d.2.1 d.2.2).attempts.get? id =
        if id = d.1 then some { d.2.1 with operationStartGate := .closed }
        else s.attempts.get? id := fun id => OrderedMap.get?_set _ _ _ _
    have hcancel : ∀ id, (recordCancellation s d.1 d.2.1 d.2.2).cancellations.get? id =
        if id = d.1 then some d.2.2 else s.cancellations.get? id := fun id =>
      OrderedMap.get?_set _ _ _ _
    have hfound : ∀ d' ∈ decisions,
        (recordCancellation s d.1 d.2.1 d.2.2).attempts.get? d'.1 = some d'.2.1 := by
      intro d' hd'
      rw [hget, if_neg (hne d' hd')]
      exact hs d' (List.mem_cons_of_mem _ hd')
    obtain ⟨hin, hout, h₁, h₂, h₃, h₄, h₅, hwf⟩ := ih hnodup hfound
    refine ⟨fun d' hd' => ?_, fun id hid => ?_, h₁, h₂, h₃, h₄, h₅, fun hwell => ?_⟩
    · rcases List.mem_cons.mp hd' with rfl | hd'
      · obtain ⟨ha, hc⟩ := hout d'.1 hne
        rw [hget, if_pos rfl] at ha
        rw [hcancel, if_pos rfl] at hc
        exact ⟨ha, hc⟩
      · exact hin d' hd'
    · obtain ⟨ha, hc⟩ := hout id fun d' hd' => hid d' (List.mem_cons_of_mem _ hd')
      have hne' : id ≠ d.1 := (hid d (by simp)).symm
      rw [hget, if_neg hne'] at ha
      rw [hcancel, if_neg hne'] at hc
      exact ⟨ha, hc⟩
    · exact hwf (hwell.of_recordCancellation (hs d (by simp)) d.2.2 ⟨rfl, rfl⟩)

/-- The attempts an owner-wide cancellation reaches are those of the execution. -/
lemma FanOut.spec {executionId : String} {first : ExecutionAttemptCancellationIntent}
    (h : FanOut s executionId first decisions) :
    (decisions.map Prod.fst).Nodup ∧ (∀ d ∈ decisions, s.attempts.get? d.1 = some d.2.1) ∧
      (∀ d ∈ decisions, d.2.1.executionId = executionId) ∧
      ∀ id r, s.attempts.get? id = some r → r.executionId = executionId →
        ∃ d ∈ decisions, d.1 = id ∧ d.2.1 = r := by
  obtain ⟨hmap, -⟩ := h
  have hmem : ∀ d ∈ decisions, (d.1, d.2.1) ∈ s.attempts.entries ∧
      d.2.1.executionId = executionId := by
    intro d hd
    have : (d.1, d.2.1) ∈ s.attempts.entries.filter fun e => e.2.executionId = executionId := by
      rw [← hmap]
      exact List.mem_map.mpr ⟨d, hd, rfl⟩
    simpa using this
  refine ⟨?_, fun d hd => OrderedMap.mem_entries_iff.mp (hmem d hd).1, fun d hd => (hmem d hd).2, ?_⟩
  · have hfst : decisions.map Prod.fst = (decisions.map fun d => (d.1, d.2.1)).map Prod.fst := by
      rw [List.map_map]
      rfl
    rw [hfst, hmap]
    exact s.attempts.nodup.sublist (List.filter_sublist.map Prod.fst)
  · intro id r hr hexecution
    have : (id, r) ∈ decisions.map fun d => (d.1, d.2.1) := by
      rw [hmap]
      simpa using ⟨OrderedMap.mem_entries_iff.mpr hr, hexecution⟩
    obtain ⟨d, hd, hdr⟩ := List.mem_map.mp this
    exact ⟨d, hd, (Prod.mk.inj hdr).1, (Prod.mk.inj hdr).2⟩

/-- Control evidence is of no concern to the other maps. -/
lemma WellFormed.of_setEvidence (hs : WellFormed s) (id : String) (evidence : AttemptControlEvidence) :
    WellFormed (setEvidence s id evidence) :=
  ⟨⟨hs.attempts, hs.operations⟩, hs.operations_known, hs.cancellations_known, hs.outcomes_known,
    hs.observations_known, hs.pointer⟩

/-- An outcome may be committed with its attempt. -/
lemma WellFormed.of_committedStore (hs : WellFormed s) (hr : s.attempts.get? id = some r) (text : String) :
    WellFormed (committedStore s id text r) := by
  unfold committedStore
  refine WellFormed.of_setAttempt (r := r) ?_ hr ⟨rfl, rfl⟩
  refine { hs with outcomes_known := fun id' _ h => ?_, observations_known := fun id' _ h => ?_ }
  all_goals
    rw [OrderedMap.get?_set] at h
    split_ifs at h with hid
    · exact ⟨r, hid ▸ hr⟩
  · exact hs.outcomes_known id' _ h
  · exact hs.observations_known id' _ h

/-- Recording completion evidence is a write of the operation, or none. -/
lemma WellFormed.of_recordProviderCompletionEvidence (hs : WellFormed s)
    (hoperation : s.operations.get? id = some operation) (evidence : BoundedRecoveryEvidence) :
    WellFormed (recordProviderCompletionEvidence s operation evidence) := by
  unfold recordProviderCompletionEvidence
  split_ifs
  · exact hs
  · rw [hs.setOperation_eq hoperation]
    exact hs.of_updateOperation hoperation rfl

end WellFormedness

section Preservation

variable {O : Type} {s t : Store} {a : Action} {answer : Answer O}

/-- **Every change keeps a store well formed.** -/
theorem WellFormed.of_change (hs : WellFormed s) (h : Change s a answer t) : WellFormed t := by
  cases h with
  | unchanged => exact hs
  | created hfresh => exact hs.of_insertedStore hfresh
  | @ensured input _ createdAt deadline _ hfresh =>
    have ht : WellFormed (insertedStore s input.toExecutionAttemptCreate
        (newRecord input.toExecutionAttemptCreate createdAt deadline)) := hs.of_insertedStore hfresh
    exact ⟨⟨ht.attempts, ht.operations⟩, ht.operations_known, ht.cancellations_known,
      ht.outcomes_known, ht.observations_known, ht.pointer⟩
  | unleased h => exact hs.of_setAttempt h.found ⟨rfl, rfl⟩
  | @started input _ attempt _ h =>
    have ht : WellFormed (s.setAttempt input.executionAttemptId (provisionedRecord attempt input)) :=
      hs.of_setAttempt h.found ⟨rfl, rfl⟩
    exact ht.of_setOperation (OrderedMap.get?_set_self _ _ _) rfl
  | renewed h => exact hs.of_updateOperation h.owned rfl
  | takenOver _ hoperation => exact hs.of_updateOperation hoperation rfl
  | handedOff h | uncertain h | evidenced _ _ h => exact hs.of_updateOperation h.owned rfl
  | @allocated _ input claimable attempt _ _ h =>
    have ht : WellFormed (s.setAttempt input.claim.executionAttemptId
        (allocatedRecord attempt input.allocationRef claimable)) :=
      hs.of_setAttempt h.found ⟨rfl, rfl⟩
    exact ht.of_updateOperation h.owned rfl
  | evolved h => exact hs.of_setAttempt h.found ⟨rfl, rfl⟩
  | @closed _ claim _ attempt _ _ h =>
    have ht : WellFormed (s.setAttempt claim.executionAttemptId (settleAttempt attempt .abandoned)) :=
      hs.of_setAttempt h.found ⟨rfl, rfl⟩
    exact ht.of_recordProviderCompletionEvidence h.owned _
  | terminated h => exact hs.of_updateOperation h.owned rfl
  | failed h | registered h | admitted h | reported h => exact hs.of_setAttempt h.found ⟨rfl, rfl⟩
  | completed hattempt => exact hs.of_setAttempt hattempt ⟨rfl, rfl⟩
  | readied h => exact hs.of_setAttempt h.found ⟨rfl, rfl⟩
  | cancelled _ hattempt => exact hs.of_recordCancellation hattempt _ ⟨rfl, rfl⟩
  | cancelledAll hdecisions =>
    obtain ⟨hnodup, hfound, -⟩ := hdecisions.spec
    exact (foldl_recordCancellation hnodup hfound).2.2.2.2.2.2.2 hs
  | evidenceStored => exact hs.of_setEvidence _ _
  | committed _ hattempt => exact hs.of_committedStore hattempt _
  | abandoned _ hattempt => exact hs.of_setAttempt hattempt ⟨rfl, rfl⟩

/-- **Every call keeps a store well formed.** -/
theorem wellFormed_execute (codec : OutcomeCodec O) (hs : WellFormed s) (a : Action) :
    WellFormed (execute codec s a).1 :=
  hs.of_change (execute_change codec hs.toKeyed a)

/-- Every run from the empty store ends in a well-formed one. -/
theorem wellFormed_run (codec : OutcomeCodec O) (as : List Action) :
    WellFormed (run codec Store.empty as) := by
  have hstep : ∀ s a, WellFormed s → WellFormed (execute codec s a).1 := fun s a hs =>
    wellFormed_execute codec hs a
  exact run_invariant codec hstep as wellFormed_empty

/-- **No row is without its attempt** after any calls: an identifier is that of an attempt, with the pointers of
the attempt's execution only, or nothing is stored under it and no pointer leads to it. -/
theorem rows_of_run (codec : OutcomeCodec O) (as : List Action) (id : String) :
    let s := run codec Store.empty as
    (∃ r, s.attempts.get? id = some r ∧ r.executionAttemptId = id ∧
        ∀ e, s.activeAttempts.get? e = some id → e = r.executionId) ∨
      s.operations.get? id = none ∧ s.cancellations.get? id = none ∧ s.committedOutcomes.get? id = none ∧
        s.outcomeControlObservations.get? id = none ∧ ∀ e, s.activeAttempts.get? e ≠ some id := by
  intro s
  have h : WellFormed s := wellFormed_run codec as
  cases hget : s.attempts.get? id with
  | some r =>
    refine Or.inl ⟨r, rfl, h.attempts id r hget, fun e he => ?_⟩
    obtain ⟨r', hr', rfl⟩ := h.pointer e id he
    cases hget.symm.trans hr'
    rfl
  | none =>
    have hnone : ¬∃ r, s.attempts.get? id = some r := by simp [hget]
    simp only [Option.eq_none_iff_forall_ne_some]
    exact Or.inr ⟨fun r hr => hnone (h.operations_known id r hr), fun r hr => hnone (h.cancellations_known id r hr),
      fun r hr => hnone (h.outcomes_known id r hr), fun r hr => hnone (h.observations_known id r hr),
      fun e he => hnone ((h.pointer e id he).imp fun _ hr => hr.1)⟩

end Preservation

end Makaio.Attempts
