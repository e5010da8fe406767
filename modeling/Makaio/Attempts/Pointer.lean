import Makaio.Attempts.Fencing

set_option autoImplicit false

/-!
# The active attempt

The pointer of an execution names the attempt that was inserted last.  An attempt is claimable only while
the pointer names it, so the recovery query finds at most one attempt of an execution, and what controllers
still record about superseded attempts brings none of them back.

## Main definitions

* `lastInserted` — the attempt of an execution that was inserted last.
* `RecoveryFacts` — what a claimable attempt and a started operation tell.
* `Action.remediates` — discovery, takeover, termination and absence.
* `provisioningStarts` — how often provisioning of an attempt was started.

## Main results

* `activeAttempts_eq_lastInserted` — the pointer is the attempt inserted last.
* `getRecoverableAttempts_spec` — the recovery query answers the active attempt at most.
* `active_attempt` — pointer and claimability along every run.
-/

namespace Makaio.Attempts

open Foundations

/-! ### The pointer -/

section Pointers

variable {O : Type} {s t : Store} {a : Action} {answer : Answer O}
variable (executionId : String)

/-- The attempt of an execution that a call inserts. -/
def inserted : Action × Answer O → Option String
  | (_, .ok (.created record)) =>
    if record.executionId = executionId then some record.executionAttemptId else none
  | _ => none

/-- The attempt of an execution that these calls inserted last. -/
def lastInserted (calls : List (Action × Answer O)) : Option String :=
  (calls.filterMap (inserted executionId)).getLast?

/-- The last attempt inserted, after one more call. -/
lemma lastInserted_snoc (calls : List (Action × Answer O)) (c : Action × Answer O) :
    lastInserted executionId (calls ++ [c]) =
      (inserted executionId c).or (lastInserted executionId calls) := by
  have hlast : ([c].filterMap (inserted executionId)).getLast? = inserted executionId c := by
    cases h : inserted executionId c <;> simp [h]
  rw [lastInserted, List.filterMap_append, List.getLast?_append, hlast]
  rfl

/-- **The pointers move with the insertions**, and with nothing else. -/
lemma activeAttempts_of_change (hs : WellFormed s) (h : Change s a answer t) :
    (t.activeAttempts = s.activeAttempts ∧ ∀ record, answer ≠ .ok (.created record)) ∨
      ∃ input createdAt deadline, a.inserts? = some input ∧
        answer = .ok (.created (newRecord input createdAt deadline)) ∧
        t.activeAttempts = s.activeAttempts.set input.executionId input.executionAttemptId := by
  have hquiet : Quiet answer → ∀ record, answer ≠ .ok (.created record) := by
    rintro hquiet record rfl
    exact absurd hquiet (by simp [Quiet, Decision.writes])
  cases h with
  | unchanged h | evidenceStored _ h => exact Or.inl ⟨rfl, hquiet h⟩
  | created | ensured =>
    refine Or.inr ⟨_, _, _, rfl, rfl, ?_⟩
    rw [← (hs.supersede_frame _).2.2.2.2.1]
    rfl
  | evidenced _ hanswer => exact Or.inl ⟨rfl, by rcases hanswer with rfl | rfl <;> simp⟩
  | closed _ _ _ _ =>
    refine Or.inl ⟨?_, by simp⟩
    unfold recordProviderCompletionEvidence
    split_ifs <;> rfl
  | cancelled hanswer => exact Or.inl ⟨rfl, by rcases hanswer with rfl | rfl <;> simp⟩
  | cancelledAll hdecisions =>
    obtain ⟨hnodup, hfound, -, -⟩ := hdecisions.spec
    exact Or.inl ⟨(foldl_recordCancellation hnodup hfound).2.2.2.2.2.1, by simp⟩
  | committed _ _ _ _ hanswer =>
    exact Or.inl ⟨rfl, by rcases hanswer with ⟨_, rfl⟩ | ⟨_, _, rfl⟩ <;> simp⟩
  | unleased | started | renewed | takenOver | handedOff | uncertain | allocated | evolved | terminated
  | failed | registered | admitted | reported | completed | readied | abandoned =>
    exact Or.inl ⟨rfl, by simp⟩

/-- The execution of every attempt has a pointer, and pointers are the last insertions. -/
structure Pointed (calls : List (Action × Answer O)) (s : Store) : Prop extends WellFormed s where
  last : ∀ executionId, s.activeAttempts.get? executionId = lastInserted executionId calls
  pointed : ∀ id r, s.attempts.get? id = some r → s.activeAttempts.get? r.executionId ≠ none

/-- A pointer follows the last insertion. -/
lemma Pointed.last_of_change {calls : List (Action × Answer O)} (hs : Pointed calls s)
    (h : Change s a answer t) (executionId : String) :
    t.activeAttempts.get? executionId = lastInserted executionId (calls ++ [(a, answer)]) := by
  rw [lastInserted_snoc, ← hs.last executionId]
  rcases activeAttempts_of_change hs.toWellFormed h with
    ⟨hsame, hnot⟩ | ⟨input, createdAt, deadline, -, rfl, hset⟩
  · have hnone : inserted executionId (a, answer) = none := by
      unfold inserted
      split
      · next heq =>
        cases heq
        exact absurd rfl (hnot _)
      · rfl
    rw [hsame, hnone, Option.none_or]
  · rw [hset, OrderedMap.get?_set]
    unfold inserted
    dsimp only [newRecord]
    by_cases he : executionId = input.executionId
    · rw [if_pos he, if_pos he.symm, Option.some_or]
    · rw [if_neg he, if_neg (Ne.symm he), Option.none_or]

end Pointers

section Runs

variable {O : Type} (codec : OutcomeCodec O)

/-- Pointers stay in place when a call is appended. -/
lemma Pointed.of_execute {calls : List (Action × Answer O)} {s : Store} (hs : Pointed calls s)
    (a : Action) : Pointed (calls ++ [(a, (execute codec s a).2)]) (execute codec s a).1 := by
  have hchange := execute_change codec hs.toKeyed a
  refine ⟨wellFormed_execute codec hs.toWellFormed a, hs.last_of_change hchange, fun id r hr => ?_⟩
  have hw := view_of_get? hr
  rcases activeAttempts_of_change hs.toWellFormed hchange with
    ⟨hsame, hnot⟩ | ⟨input, createdAt, deadline, hinput, -, hset⟩
  · cases hv : s.view id with
    | none =>
      obtain ⟨_, _, _, -, -, hanswer, -⟩ := view_execute_new codec hs.toWellFormed a hv hw
      exact absurd hanswer (hnot _)
    | some v =>
      obtain ⟨w, hw', hstep⟩ := view_execute codec hs.toWellFormed a hv
      cases hw.symm.trans hw'
      rw [hsame, executionId_of_viewStep hstep]
      exact hs.pointed id v.record (get?_of_view hv)
  · rw [hset, OrderedMap.get?_set]
    split_ifs with he
    · simp
    · cases hv : s.view id with
      | none =>
        obtain ⟨input', _, _, hinput', -, -, hfresh⟩ :=
          view_execute_new codec hs.toWellFormed a hv hw
        cases hinput.symm.trans hinput'
        exact absurd (congrArg (fun v => v.record.executionId) hfresh) he
      | some v =>
        obtain ⟨w, hw', hstep⟩ := view_execute codec hs.toWellFormed a hv
        cases hw.symm.trans hw'
        rw [executionId_of_viewStep hstep]
        exact hs.pointed id v.record (get?_of_view hv)

/-- The pointers lead to the last attempts after every run. -/
lemma pointed_run (as : List Action) :
    Pointed (history codec Store.empty as) (run codec Store.empty as) := by
  have hstart : Pointed (O := O) [] Store.empty :=
    ⟨wellFormed_empty, fun _ => rfl, fun _ _ h => absurd h (by simp [Store.empty])⟩
  exact history_invariant codec hstart (fun _ _ a hs => hs.of_execute codec a) as

/-- **The pointer is the attempt inserted last.** -/
theorem activeAttempts_eq_lastInserted (as : List Action) (executionId : String) :
    (run codec Store.empty as).activeAttempts.get? executionId =
      lastInserted executionId (history codec Store.empty as) :=
  (pointed_run codec as).last executionId

end Runs

/-! ### Claimability -/

/-- What a claimable attempt and a started operation tell. -/
structure RecoveryFacts (v : AttemptView) : Prop extends ClaimFacts v where
  claimable : v.record.claimable = true →
    v.record.status = .allocated ∧ v.record.settlementKind = none ∧ v.active = true
  provider : v.operation ≠ none → v.record.providerId ≠ none ∧ v.record.allocationLifetime ≠ none ∧
    v.record.provisionerIncarnationId ≠ none

/-- The calls by which controllers settle what is left of an attempt's infrastructure. -/
def Action.remediates : Action → Bool
  | .recordDiscoveredAllocation _ | .takeOverProviderOperation _ _ | .recordAllocationTerminated _ _
  | .recordProvisioningAbsent _ | .recordProvisionerIncarnationLost _ => true
  | _ => false

section Steps

variable {O : Type} {a : Action} {answer : Answer O} {v w : AttemptView}

/-- A claimable attempt is allocated, unsettled and active after a step too. -/
lemma claimable_of_viewStep (h : ViewStep a answer v w)
    (hv : v.record.claimable = true →
      v.record.status = .allocated ∧ v.record.settlementKind = none ∧ v.active = true) :
    w.record.claimable = true →
      w.record.status = .allocated ∧ w.record.settlementKind = none ∧ w.active = true := by
  intro hclaimable
  cases h with
  | same | renewed | takenOver | handedOff | uncertain | evidenced | evolved | terminated | registered
  | admitted | reported | completed | readied | cancelled => exact hv hclaimable
  | superseded =>
    exfalso
    dsimp only [supersededRecord] at hclaimable
    split_ifs at hclaimable with hstatus
    exact hstatus (hv hclaimable).1
  | unleased h | started h =>
    exact absurd (h.pending.symm.trans (hv hclaimable).1) (by simp)
  | allocated _ _ _ _ hgranted =>
    obtain ⟨hunsettled, hactive, -⟩ := hgranted hclaimable
    exact ⟨if_pos hunsettled, hunsettled, hactive⟩
  | closed | failed | committed | abandoned =>
    exact absurd hclaimable (by simp [settleAttempt])

/-- Every step keeps the facts about recovery. -/
lemma recoveryFacts_viewInvariant : ViewInvariant O RecoveryFacts where
  fresh := fun input createdAt deadline =>
    ⟨claimFacts_viewInvariant (O := O) |>.fresh input createdAt deadline,
      fun h => absurd h (by simp [AttemptView.fresh, newRecord]), fun h => absurd rfl h⟩
  step := by
    intro a answer v w h hv
    refine ⟨claimFacts_viewInvariant.step h hv.toClaimFacts,
      claimable_of_viewStep h hv.claimable, ?_⟩
    cases h with
    | same | superseded | evolved | failed | registered | admitted | reported | completed | readied
    | cancelled | committed | abandoned => exact hv.provider
    | unleased | started =>
      intro _
      simp [provisionedRecord]
    | renewed h | handedOff h | uncertain h | evidenced _ _ h | allocated _ h | closed _ h
    | terminated h => exact fun _ => hv.provider (by simp [h.owned])
    | takenOver _ hoperation => exact fun _ => hv.provider (by simp [hoperation])

/-- Remediation makes no attempt claimable. -/
lemma claimable_of_remediates (h : ViewStep a answer v w) (ha : a.remediates = true)
    (hclaimable : w.record.claimable = true) : v.record.claimable = true := by
  cases h with
  | same | renewed | takenOver | handedOff | uncertain | evidenced | evolved | terminated | registered
  | admitted | reported | completed | readied | cancelled | unleased | started => exact hclaimable
  | superseded hinput =>
    exfalso
    cases a <;> simp [Action.inserts?, Action.remediates] at hinput ha
  | allocated _ _ _ _ hgranted =>
    obtain ⟨-, -, rfl⟩ := hgranted hclaimable
    exact absurd ha (by simp [Action.remediates])
  | closed | failed | committed | abandoned =>
    exact absurd hclaimable (by simp [settleAttempt])

/-! ### Starts -/

/-- The call starts provisioning of the attempt. -/
def isStart (id : String) : Action × Answer O → Bool
  | (.beginProvisioning input _, .ok (.started _)) => input.executionAttemptId = id
  | _ => false

/-- How often provisioning of an attempt was started. -/
def provisioningStarts (id : String) (calls : List (Action × Answer O)) : ℕ :=
  calls.countP (isStart id)

/-- The starts of provisioning, after one more call. -/
lemma provisioningStarts_snoc (id : String) (calls : List (Action × Answer O))
    (c : Action × Answer O) :
    provisioningStarts id (calls ++ [c]) =
      provisioningStarts id calls + if isStart id c then 1 else 0 := by
  rw [provisioningStarts, List.countP_append, List.countP_singleton, ← provisioningStarts]

/-- A call that starts provisioning. -/
lemma eq_of_isStart {id : String} (h : isStart id (a, answer) = true) :
    ∃ input token claim, a = .beginProvisioning input token ∧ answer = .ok (.started claim) ∧
      input.executionAttemptId = id := by
  unfold isStart at h
  split at h
  next input token claim heq =>
    cases heq
    exact ⟨input, token, claim, rfl, rfl, by simpa using h⟩
  next => cases h

/-- A start is the call that brings the operation record into being. -/
lemma starts_of_viewStep (h : ViewStep a answer v w) (hv : ClaimFacts v) :
    (if w.operation.isSome then 1 else 0) = (if v.operation.isSome then 1 else 0) +
      if isStart v.record.executionAttemptId (a, answer) then 1 else 0 := by
  by_cases hstart : isStart v.record.executionAttemptId (a, answer) = true
  · obtain ⟨input, token, claim, rfl, rfl, hid⟩ := eq_of_isStart hstart
    cases h with
    | same hquiet =>
      exact absurd (hquiet (congrArg some hid)) (by simp [Quiet, Decision.writes])
    | superseded hinput => exact absurd hinput (by simp [Action.inserts?])
    | evidenced hclaim => exact absurd hclaim (by simp [Action.claim?])
    | cancelled haction =>
      rcases haction with ⟨_, _, h, -⟩ | ⟨_, _, _, h, -⟩ <;> cases h
    | started h =>
      have hnone : v.operation = none := by
        by_contra hne
        exact hv.started hne h.pending
      rw [if_pos hstart, hnone]
      rfl
  · rw [if_neg hstart, Nat.add_zero]
    cases h with
    | same | superseded | unleased | evolved | failed | registered | admitted | reported | completed
    | readied | cancelled | committed | abandoned => rfl
    | started h => exact absurd (by simpa [isStart] using h.target) hstart
    | renewed h | handedOff h | uncertain h | evidenced _ _ h | allocated _ h | closed _ h
    | terminated h => simp [h.owned]
    | takenOver _ hoperation => simp [hoperation]

/-- Provisioning starts only of an attempt that exists. -/
lemma exists_of_isStart {s t : Store} (h : Change s a answer t) {id : String}
    (hstart : isStart id (a, answer) = true) : ∃ r, s.attempts.get? id = some r := by
  obtain ⟨input, token, claim, rfl, rfl, rfl⟩ := eq_of_isStart hstart
  cases h with
  | unchanged hquiet | evidenceStored _ hquiet => exact absurd hquiet (by simp [Quiet, Decision.writes])
  | evidenced hclaim => exact absurd hclaim (by simp [Action.claim?])
  | started h => exact ⟨_, h.found⟩

end Steps

/-! ### Runs -/

section Recovery

variable {O : Type} (codec : OutcomeCodec O)
variable (as : List Action)

/-- The facts about recovery hold after every run. -/
lemma recoveryFacts_run {id : String} {v : AttemptView} (hv : (run codec Store.empty as).view id = some v) :
    RecoveryFacts v :=
  view_run_invariant codec recoveryFacts_viewInvariant as hv

/-- Distinct values that are all one. -/
private lemma length_le_one_of_nodup_of_eq {α : Type*} {l : List α} (hnodup : l.Nodup) {x : α}
    (h : ∀ y ∈ l, y = x) : l.length ≤ 1 := by
  match l with
  | [] => exact Nat.zero_le _
  | [_] => exact le_rfl
  | y :: z :: _ =>
    have hy := h y (by simp)
    have hz := h z (by simp)
    exact absurd (hy.trans hz.symm) (by simpa using fun heq => (List.nodup_cons.mp hnodup).1 (by simp [heq]))

/-- A check that passes everywhere answers the list it was given. -/
private lemma mapM_eq_ok {α ε : Type*} {f : α → Except ε α} {l : List α}
    (h : ∀ x ∈ l, f x = .ok x) : l.mapM f = .ok l := by
  induction l with
  | nil => rfl
  | cons x l ih =>
    rw [List.mapM_cons, h x (by simp), ih fun y hy => h y (by simp [hy])]
    rfl

/-- A record that the recovery query selects. -/
lemma selected_spec {executionId : String} {now : Instant} {r : ExecutionAttemptRecord}
    (hr : r ∈ ((run codec Store.empty as).attempts.entries.map Prod.snd).filter (selectsRecoverable executionId now)) :
    
    (run codec Store.empty as).attempts.get? r.executionAttemptId = some r ∧
      r.executionId = executionId ∧
      (run codec Store.empty as).activeAttempts.get? executionId = some r.executionAttemptId ∧
      toRecoverableAttempt r = .ok r := by
  obtain ⟨hmem, hselected⟩ := List.mem_filter.mp hr
  obtain ⟨⟨id, r'⟩, hentry, rfl⟩ := List.mem_map.mp hmem
  have hattempt := OrderedMap.mem_entries_iff.mp hentry
  have hid : r'.executionAttemptId = id := (wellFormed_run codec as).attempts id r' hattempt
  have hv := view_of_get? hattempt
  have hfacts := recoveryFacts_run codec as hv
  simp only [selectsRecoverable, Bool.and_eq_true, decide_eq_true_eq, Option.isSome_iff_ne_none] at hselected
  obtain ⟨⟨⟨⟨⟨hexecution, hstatus⟩, hallocated⟩, hclaimable⟩, hunsettled⟩, -⟩ := hselected
  obtain ⟨-, hkind, hactive⟩ := hfacts.claimable hclaimable
  have howned : (run codec Store.empty as).operations.get? id ≠ none := fun hnone =>
    hallocated (hfacts.unallocated hnone)
  obtain ⟨hprovider, hlifetime, hincarnation⟩ := hfacts.provider howned
  refine ⟨by rw [hid]; exact hattempt, hexecution, ?_, ?_⟩
  · rw [hid, ← hexecution]
    simpa [isActive] using hactive
  · unfold toRecoverableAttempt
    rw [if_neg]
    dsimp only at hkind
    simp [hstatus, hclaimable, hkind, hallocated, hprovider, hlifetime, hincarnation]

/-- **The recovery query answers the active attempt of the execution, or none.** -/
theorem getRecoverableAttempts_spec (executionId : String) (now : Instant) :
    ∃ found, getRecoverableAttempts (run codec Store.empty as) executionId now = .ok found ∧
      found.length ≤ 1 ∧ ∀ r ∈ found,
        (run codec Store.empty as).attempts.get? r.executionAttemptId = some r ∧
        (run codec Store.empty as).activeAttempts.get? executionId = some r.executionAttemptId := by
  have hs := wellFormed_run codec as
  have hselected := fun r =>
    @selected_spec O codec as executionId now r
  generalize hl : ((run codec Store.empty as).attempts.entries.map Prod.snd).filter
    (selectsRecoverable executionId now) = l at hselected
  refine ⟨l.insertionSort fun a b => recoveryOrder a b, ?_, ?_, fun r hr => ?_⟩
  · unfold getRecoverableAttempts
    rw [hl, mapM_eq_ok fun r hr => (hselected r hr).2.2.2]
    rfl
  · rw [List.length_insertionSort]
    have hkeys : ((run codec Store.empty as).attempts.entries.map Prod.snd).map
        ExecutionAttemptRecord.executionAttemptId =
          (run codec Store.empty as).attempts.entries.map Prod.fst := by
      rw [List.map_map]
      exact List.map_congr_left fun e he => hs.attempts e.1 e.2 (OrderedMap.mem_entries_iff.mp he)
    have hnodup : (l.map ExecutionAttemptRecord.executionAttemptId).Nodup := by
      rw [← hl]
      refine List.Nodup.sublist (List.filter_sublist.map _) ?_
      rw [hkeys]
      exact (run codec Store.empty as).attempts.nodup
    cases hpointer : (run codec Store.empty as).activeAttempts.get? executionId with
    | none =>
      match l, hselected with
      | [], _ => exact Nat.zero_le _
      | r :: _, hselected =>
        exact absurd ((hselected r (by simp)).2.2.1.symm.trans hpointer) (by simp)
    | some active =>
      rw [← List.length_map (f := ExecutionAttemptRecord.executionAttemptId)]
      refine length_le_one_of_nodup_of_eq hnodup (x := active) fun id hid => ?_
      obtain ⟨r, hr, rfl⟩ := List.mem_map.mp hid
      exact Option.some.inj ((hselected r hr).2.2.1.symm.trans hpointer)
  · obtain ⟨hattempt, -, hpointer, -⟩ := hselected r ((List.perm_insertionSort _ l).mem_iff.mp hr)
    exact ⟨hattempt, hpointer⟩

/-- A start happens at most once. -/
lemma provisioningStarts_le_one (id : String) :
    provisioningStarts id (history codec Store.empty as) ≤ 1 := by
  rw [view_history_projection codec provisioningStarts
    (fun id c n => n + if isStart id c then 1 else 0) (fun v => if v.operation.isSome then 1 else 0)
    claimFacts_viewInvariant (fun _ => rfl) provisioningStarts_snoc (fun _ _ _ => rfl) ?_
    (fun h hv => starts_of_viewStep h hv) as id]
  · cases (run codec Store.empty as).view id with
    | none => exact Nat.zero_le _
    | some v =>
      rw [Option.map_some, Option.getD_some]
      split_ifs <;> simp
  · intro s t a answer id h hnone
    have hnot : ¬ isStart id (a, answer) = true := by
      intro hstart
      obtain ⟨r, hr⟩ := exists_of_isStart h hstart
      exact absurd (hr.symm.trans hnone) (by simp)
    rw [if_neg hnot]

/-- **The active attempt**: along every run from the empty store

* the pointer of an execution names the attempt that was inserted last, and an execution with an attempt
  has a pointer to one of its attempts;
* a claimable attempt is allocated, unsettled and the active one of its execution;
* the recovery query answers at most one attempt of an execution, the active one;
* remediation moves no pointer and makes no attempt claimable;
* provisioning of an attempt is started at most once. -/
theorem active_attempt (as : List Action) :
    let s := run codec Store.empty as
    (∀ executionId, s.activeAttempts.get? executionId =
      lastInserted executionId (history codec Store.empty as)) ∧
    (∀ id r, s.attempts.get? id = some r →
      ∃ active r', s.activeAttempts.get? r.executionId = some active ∧
        s.attempts.get? active = some r' ∧ r'.executionId = r.executionId) ∧
    (∀ id r, s.attempts.get? id = some r → r.claimable = true →
      r.status = .allocated ∧ r.settlementKind = none ∧
        s.activeAttempts.get? r.executionId = some id) ∧
    (∀ executionId now, ∃ found, getRecoverableAttempts s executionId now = .ok found ∧
      found.length ≤ 1 ∧ ∀ r ∈ found, s.attempts.get? r.executionAttemptId = some r ∧
        s.activeAttempts.get? executionId = some r.executionAttemptId) ∧
    (∀ a, a.remediates = true → (execute codec s a).1.activeAttempts = s.activeAttempts ∧
      ∀ id r', (execute codec s a).1.attempts.get? id = some r' → r'.claimable = true →
        ∃ r, s.attempts.get? id = some r ∧ r.claimable = true) ∧
    ∀ id, provisioningStarts id (history codec Store.empty as) ≤ 1 := by
  intro s
  have hs : WellFormed s := wellFormed_run codec as
  refine ⟨activeAttempts_eq_lastInserted codec as, ?_, ?_, getRecoverableAttempts_spec codec as, ?_,
    provisioningStarts_le_one codec as⟩
  · intro id r hr
    obtain ⟨active, hactive⟩ :=
      Option.ne_none_iff_exists'.mp ((pointed_run codec as).pointed id r hr)
    obtain ⟨r', hr', hexecution⟩ := hs.pointer _ active hactive
    exact ⟨active, r', hactive, hr', hexecution⟩
  · intro id r hr hclaimable
    obtain ⟨hstatus, hkind, hactive⟩ :=
      (recoveryFacts_run codec as (view_of_get? hr)).claimable hclaimable
    exact ⟨hstatus, hkind, by simpa [isActive] using hactive⟩
  · intro a ha
    have hnoinsert : a.inserts? = none := by
      cases a <;> first
        | rfl
        | exact absurd ha (by simp [Action.remediates])
    refine ⟨?_, fun id r' hr' hclaimable => ?_⟩
    · rcases activeAttempts_of_change hs (execute_change codec hs.toKeyed a) with
        ⟨hsame, -⟩ | ⟨input, _, _, hinput, -, -⟩
      · exact hsame
      · exact absurd (hnoinsert.symm.trans hinput) (by simp)
    · cases hv : s.view id with
      | none =>
        obtain ⟨_, _, _, hinput, -⟩ := view_execute_new codec hs a hv (view_of_get? hr')
        exact absurd (hnoinsert.symm.trans hinput) (by simp)
      | some v =>
        obtain ⟨w, hw, hstep⟩ := view_execute codec hs a hv
        obtain rfl : r' = w.record := Option.some.inj (hr'.symm.trans (get?_of_view hw))
        exact ⟨v.record, get?_of_view hv, claimable_of_remediates hstep ha hclaimable⟩

end Recovery

end Makaio.Attempts
