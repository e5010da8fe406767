import Makaio.Attempts.AttemptView

set_option autoImplicit false

/-!
# Replayed demands and first cancellations

An owner that repeats a demand under one request key gets the attempt that the key was bound to, and a
repeated cancellation finds the intent that came first.  Both are decided against arbitrary histories: a
binding is never rewritten, and neither is an intent.

## Main results

* `requestBindings_of_change` — only a demand that creates an attempt binds a key.
* `ensureAttempt_refused` — every other demand changes nothing.
* `requestCancellation_spec` — an owner-wide cancellation reaches the attempts of its
  execution and no other.
* `idempotent_requests` — bindings and intents along every run.
-/

namespace Makaio.Attempts

open Foundations

/-! ### Request keys -/

variable {requestKey : String}

section Bindings

variable {O : Type} {s t : Store} {a : Action} {answer : Answer O}

/-- **Only a demand that creates an attempt binds a key.** -/
lemma requestBindings_of_change (hs : WellFormed s) (h : Change s a answer t) :
    t.requestBindings = s.requestBindings ∨
      ∃ (input : EnsureExecutionAttemptPersistenceInput) (id : String),
        boundAttemptId s input.executionId input.requestKey = none ∧
        t.requestBindings = s.requestBindings.set input.executionId
          (((s.requestBindings.get? input.executionId).getD .empty).set input.requestKey id) := by
  cases h with
  | created => exact Or.inl (hs.supersede_frame _).2.2.2.2.2.1
  | @ensured input _ _ _ hunbound =>
    have hframe := (hs.supersede_frame input.executionId).2.2.2.2.2.1
    exact Or.inr ⟨input, input.executionAttemptId, hunbound, congrArg (fun bindings =>
      OrderedMap.set bindings input.executionId _) hframe⟩
  | closed =>
    left
    unfold recordProviderCompletionEvidence
    split_ifs <;> rfl
  | cancelledAll hdecisions =>
    obtain ⟨hnodup, hfound, -, -⟩ := hdecisions.spec
    exact Or.inl (foldl_recordCancellation hnodup hfound).2.2.2.2.2.2.1
  | unchanged | unleased | started | renewed | takenOver | handedOff | uncertain | evidenced | allocated
  | evolved | terminated | failed | registered | admitted | reported | completed | readied | cancelled
  | evidenceStored | committed | abandoned => exact Or.inl rfl

/-- A binding stays. -/
lemma boundAttemptId_of_change (hs : WellFormed s) (h : Change s a answer t) {executionId id : String}
    (hbound : boundAttemptId s executionId requestKey = some id) :
    boundAttemptId t executionId requestKey = some id := by
  rcases requestBindings_of_change hs h with hsame | ⟨input, id', hunbound, hset⟩
  · unfold boundAttemptId
    rw [hsame]
    exact hbound
  · unfold boundAttemptId at hbound hunbound ⊢
    rw [hset, OrderedMap.get?_set]
    by_cases hexecution : executionId = input.executionId
    · subst hexecution
      have hkey : requestKey ≠ input.requestKey := by
        rintro rfl
        exact absurd (hbound.symm.trans hunbound) (by simp)
      obtain ⟨bindings, hbindings, hget⟩ := Option.bind_eq_some_iff.mp hbound
      rw [if_pos rfl, hbindings, Option.getD_some, Option.bind_some, OrderedMap.get?_set_of_ne _ _ hkey]
      exact hget
    · rw [if_neg hexecution]
      exact hbound

variable {input : EnsureExecutionAttemptPersistenceInput} {now : Instant}

/-- A demand that creates nothing changes nothing. -/
lemma ensureAttempt_unchanged
    (hnot : ∀ record, (ensureAttempt (O := O) s input now).2 ≠ .ok (.created record)) :
    (ensureAttempt (O := O) s input now).1 = s := by
  revert hnot
  unfold ensureAttempt
  split
  next => exact fun _ => rfl
  next =>
    split
    next => exact fun _ => rfl
    next =>
      split
      next => exact fun _ => rfl
      next => exact fun hnot => absurd rfl (hnot _)

/-- **A demand under a bound key, or for an attempt that exists, creates nothing.** -/
lemma ensureAttempt_refused (h : boundAttemptId s input.executionId input.requestKey ≠ none ∨
      s.attempts.get? input.executionAttemptId ≠ none) (record : ExecutionAttemptRecord) :
    (ensureAttempt (O := O) s input now).2 ≠ .ok (.created record) := by
  unfold ensureAttempt
  split
  next => simp
  next =>
    split
    next bound _ =>
      intro hcreated
      have hquiet := quiet_replayEnsuredAttempt (O := O) input (s.attempts.get? bound)
      dsimp only at hcreated
      rw [hcreated] at hquiet
      exact absurd hquiet (by simp [Quiet, Decision.writes])
    next hunbound =>
      split
      next => simp
      next t attempt hinsert =>
        obtain ⟨hfresh, -⟩ := insertAttempt_ok hinsert
        rcases h with hbound | hexists
        · exact absurd hunbound hbound
        · exact absurd hfresh hexists

end Bindings

/-! ### Cancellation intents -/

section Cancellations

variable {O : Type} {s : Store}

/-- A step keeps a recorded intent. -/
lemma cancellation_of_viewStep {a : Action} {answer : Answer O} {v w : AttemptView}
    (h : ViewStep a answer v w) {intent : ExecutionAttemptCancellationIntent}
    (hintent : v.cancellation = some intent) : w.cancellation = some intent := by
  cases h with
  | cancelled _ hleaves => exact congrArg some (hleaves intent hintent)
  | _ => exact hintent

/-- **An owner-wide cancellation** either throws and changes nothing, or leaves an intent on every attempt
of its execution, closes the gates of these, and touches no other attempt. -/
theorem requestCancellation_spec (input : RequestExecutionCancellationInput) (requestKey : String)
    (now : Instant) :
    (∃ e, requestCancellation (O := O) s input requestKey now = (s, .error e)) ∨
      (requestCancellation (O := O) s input requestKey now).2 = .ok .cancellationRecorded ∧
        (∀ id r, s.attempts.get? id = some r → r.executionId = input.executionId →
          (requestCancellation (O := O) s input requestKey now).1.attempts.get? id =
              some { r with operationStartGate := .closed } ∧
            (requestCancellation (O := O) s input requestKey now).1.cancellations.get? id =
              some ((s.cancellations.get? id).getD ⟨requestKey, 1, now, input.reason⟩)) ∧
        ∀ id, (∀ r, s.attempts.get? id = some r → r.executionId ≠ input.executionId) →
          (requestCancellation (O := O) s input requestKey now).1.attempts.get? id =
              s.attempts.get? id ∧
            (requestCancellation (O := O) s input requestKey now).1.cancellations.get? id =
              s.cancellations.get? id := by
  unfold requestCancellation
  split
  next => exact Or.inl ⟨_, rfl⟩
  next =>
    dsimp only
    split
    next => exact Or.inl ⟨_, rfl⟩
    next decisions hdecisions =>
      have hfanOut := fanOut_of_mapM hdecisions
      obtain ⟨hnodup, hfound, howned, hall⟩ := hfanOut.spec
      obtain ⟨hin, hout, -⟩ := foldl_recordCancellation hnodup hfound
      refine Or.inr ⟨rfl, fun id r hr hexecution => ?_, fun id hother => ?_⟩
      · obtain ⟨d, hd, rfl, rfl⟩ := hall id r hr hexecution
        obtain ⟨hattempt, hcancellation⟩ := hin d hd
        refine ⟨hattempt, hcancellation.trans (congrArg some ?_)⟩
        exact hfanOut.2 d hd
      · refine hout id fun d hd hid => ?_
        subst hid
        exact hother _ (hfound d hd) (howned d hd)

/-- An owner-wide cancellation under a key of its own is recorded. -/
lemma requestCancellation_recorded {input : RequestExecutionCancellationInput} (now : Instant)
    (hidentity : input.executionId ≠ "")
    (hkey : ∀ id intent, s.cancellations.get? id = some intent → intent.requestKey ≠ requestKey) :
    (requestCancellation (O := O) s input requestKey now).2 = .ok .cancellationRecorded := by
  have hintent : ∀ id, ∃ intent, fanOutIntent s id requestKey input.reason now = some intent := by
    intro id
    unfold fanOutIntent evaluateAttemptCancellation
    cases hstored : s.cancellations.get? id with
    | none => exact ⟨_, rfl⟩
    | some stored =>
      dsimp only
      rw [if_neg fun h => hkey id stored hstored h.1]
      exact ⟨_, rfl⟩
  have hmapM : ∀ owned : List (String × ExecutionAttemptRecord), ∃ decisions, (owned.mapM fun e =>
      (fanOutIntent s e.1 requestKey input.reason now).map fun intent => (e.1, e.2, intent)) =
        some decisions := by
    intro owned
    induction owned with
    | nil => exact ⟨[], rfl⟩
    | cons e owned ih =>
      obtain ⟨intent, h⟩ := hintent e.1
      obtain ⟨decisions, hdecisions⟩ := ih
      refine ⟨(e.1, e.2, intent) :: decisions, ?_⟩
      rw [List.mapM_cons, h, hdecisions]
      rfl
  unfold requestCancellation requireIdentity
  rw [if_neg hidentity]
  dsimp only
  obtain ⟨decisions, hdecisions⟩ := hmapM
    (s.attempts.entries.filter fun e => e.2.executionId = input.executionId)
  rw [hdecisions]

end Cancellations

/-! ### Runs -/

section Runs

variable {O : Type} (codec : OutcomeCodec O)

/-- A binding stays along a run. -/
lemma boundAttemptId_run (bs : List Action) : ∀ {s : Store}, WellFormed s →
    ∀ {executionId requestKey id : String}, boundAttemptId s executionId requestKey = some id →
      boundAttemptId (run codec s bs) executionId requestKey = some id := by
  induction bs with
  | nil => exact fun _ _ _ _ h => h
  | cons b bs ih =>
    intro s hs executionId requestKey id hbound
    exact ih (wellFormed_execute codec hs b)
      (boundAttemptId_of_change hs (execute_change codec hs.toKeyed b) hbound)

/-- Any attempt is as good as fresh to a cancellation. -/
lemma trivial_viewInvariant : ViewInvariant O fun _ => True := ⟨fun _ _ _ => trivial, fun _ _ => trivial⟩

/-- **Demands and cancellations are idempotent**: along every run from the empty store

* a request key stays bound to the attempt it was bound to;
* a demand that does not create an attempt changes nothing, and one under a bound key or for an attempt
  that exists creates none;
* the first cancellation intent of an attempt stays as it is;
* an owner-wide cancellation either throws and changes nothing, or leaves an intent on each attempt of its
  execution, the stored one or the first, closes their gates, and touches no other attempt;
* under a key that no intent has, it does not throw. -/
theorem idempotent_requests (as : List Action) :
    let s := run codec Store.empty as
    (∀ bs executionId requestKey id, boundAttemptId s executionId requestKey = some id →
      boundAttemptId (run codec Store.empty (as ++ bs)) executionId requestKey = some id) ∧
    (∀ input now, (∀ record, (execute codec s (.ensureAttempt input now)).2 ≠ .ok (.created record)) →
      (execute codec s (.ensureAttempt input now)).1 = s) ∧
    (∀ (input : EnsureExecutionAttemptPersistenceInput) now,
      boundAttemptId s input.executionId input.requestKey ≠ none ∨
        s.attempts.get? input.executionAttemptId ≠ none →
      (execute codec s (.ensureAttempt input now)).1 = s) ∧
    (∀ bs id intent, s.cancellations.get? id = some intent →
      (run codec Store.empty (as ++ bs)).cancellations.get? id = some intent) ∧
    (∀ (input : RequestExecutionCancellationInput) requestKey now,
      let t := (execute codec s (.requestCancellation input requestKey now)).1
      ((∃ e, (execute codec s (.requestCancellation input requestKey now)).2 = .error e) ∧ t = s) ∨
        (execute codec s (.requestCancellation input requestKey now)).2 = .ok .cancellationRecorded ∧
          (∀ id r, s.attempts.get? id = some r → r.executionId = input.executionId →
            t.attempts.get? id = some { r with operationStartGate := .closed } ∧
              t.cancellations.get? id =
                some ((s.cancellations.get? id).getD ⟨requestKey, 1, now, input.reason⟩)) ∧
          ∀ id, (∀ r, s.attempts.get? id = some r → r.executionId ≠ input.executionId) →
            t.attempts.get? id = s.attempts.get? id ∧
              t.cancellations.get? id = s.cancellations.get? id) ∧
    ∀ (input : RequestExecutionCancellationInput) requestKey now, input.executionId ≠ "" →
      (∀ id intent, s.cancellations.get? id = some intent → intent.requestKey ≠ requestKey) →
      (execute codec s (.requestCancellation input requestKey now)).2 = .ok .cancellationRecorded := by
  intro s
  have hs : WellFormed s := wellFormed_run codec as
  refine ⟨?_, fun _ _ hnot => ensureAttempt_unchanged hnot, ?_, ?_, ?_, ?_⟩
  · intro bs executionId requestKey id hbound
    rw [run_append]
    exact boundAttemptId_run codec bs hs hbound
  · exact fun input now h => ensureAttempt_unchanged fun record => ensureAttempt_refused h record
  · intro bs id intent hintent
    obtain ⟨r, hr⟩ := hs.cancellations_known id intent hintent
    obtain ⟨w, hw, hkept⟩ := view_run_extended codec trivial_viewInvariant
      (R := fun v w => ∀ intent, v.cancellation = some intent → w.cancellation = some intent)
      (fun _ _ h => h) (fun h h' intent hu => h' intent (h intent hu))
      (fun h _ intent hintent => cancellation_of_viewStep h hintent) as bs (view_of_get? hr)
    exact (cancellation_of_view hw).symm.trans (hkept intent hintent)
  · intro input requestKey now
    rcases requestCancellation_spec (O := O) (s := s) input requestKey now with ⟨e, he⟩ | h
    · exact Or.inl ⟨⟨e, congrArg Prod.snd he⟩, congrArg Prod.fst he⟩
    · exact Or.inr h
  · exact fun input requestKey now hidentity hkey => requestCancellation_recorded now hidentity hkey

end Runs

end Makaio.Attempts
