import Mathlib.Tactic

set_option autoImplicit false

/-!
# Two parties that walk one list of levels

An abstract picture of a request between two buses.  The handlers of both are laid out in levels of
descending priority.  The party that holds the request runs its own handlers of a level, hands the
rest of the list, this level included, to the other party if that has handlers there too, and goes on
with the lower levels only if the other party found no result.  There are shared levels that are
left out of what is handed over, and a party that has handed the request over once more before it
got it back does not go on at all.

A handler may be run twice in two ways.  On a level shared by both parties the request comes back
and the level is run again; and a party that found no result leaves the levels it has walked to the
other one, which walks them once more.  The results below say that there is no third way.

## Main definitions

* `Level`, `Effect` — the levels, and what a handler does to the chain.
* `levelRun` — the walk, with a bound on the number of times the request changes hands.
* `Safe` — the arrangements in which nothing is run twice.
* `SafeDirect` — the same when the second party does not hand the request back.

## Main results

* `levelRun_of_safe` — a safe arrangement runs no handler twice.
* `exists_levelRun_of_not_safe` — any other arrangement does.
* `levelRun_of_safeDirect`, `levelRun_of_not_safeDirect` — the same when the
  second party keeps the request.
-/

namespace Makaio.Bus

/-- What a handler does to the chain. -/
inductive Effect
  /-- It sets no result, and the chain goes on. -/
  | passes
  /-- It sets a result, and the chain goes on. -/
  | contributes
  /-- It sets a result, and the chain ends. -/
  | answers
  deriving DecidableEq

/-- The handlers of both parties at one priority.  A shared level may be *tight*: then it is not
handed over with what is below. -/
structure Level (E : Type) where
  priority : ℤ
  handlers : Bool → List E
  tight : Bool
  shared : tight = true → ∀ x, handlers x ≠ []

/-- What a walk has done: the handlers run, whether a result was found (none if the walk does not go
on), and who has handed the request over. -/
structure Walk (E : Type) where
  trace : List E
  handled : Option Bool
  hands : List Bool

section Definitions

variable {E : Type} (effect : E → Effect)

/-- All handlers of a level. -/
def Level.events (l : Level E) : List E := l.handlers false ++ l.handlers true

/-- All handlers of some levels. -/
def allHandlers (ls : List (Level E)) : List E := ls.flatMap Level.events

/-- The handlers of one party. -/
def handlersOf (x : Bool) (ls : List (Level E)) : List E := ls.flatMap fun l => l.handlers x

/-- Some of the handlers sets a result. -/
def SetsResult (es : List E) : Prop := ∃ e ∈ es, effect e ≠ .passes

/-- Some of the handlers ends the chain. -/
def Answers (es : List E) : Prop := ∃ e ∈ es, effect e = .answers

instance (es : List E) : Decidable (SetsResult effect es) :=
  inferInstanceAs (Decidable (∃ e ∈ es, effect e ≠ .passes))

instance (es : List E) : Decidable (Answers effect es) :=
  inferInstanceAs (Decidable (∃ e ∈ es, effect e = .answers))

/-- Run some handlers, and then the rest of the chain. -/
def runHandlers (rest : Walk E) : List E → Walk E
  | [] => rest
  | e :: es =>
    if effect e = .answers then ⟨[e], some true, []⟩
    else ⟨e :: (runHandlers rest es).trace,
      (runHandlers rest es).handled.map fun b => decide (effect e ≠ .passes) || b,
      (runHandlers rest es).hands⟩

/-- If the walk has ended, it has found a result if one of the handlers `es` sets one; and it has run
nothing but these, each at most as often as it is listed. -/
structure Walk.Settles (w : Walk E) (es : List E) : Prop where
  handled : ∀ b ∈ w.handled, b = decide (SetsResult effect es)
  trace : w.trace.Subperm es

/-- Go on with `rest` if no result was found. -/
def Walk.orElse (w rest : Walk E) : Walk E :=
  match w.handled with
  | some false => ⟨w.trace ++ rest.trace, rest.handled, w.hands ++ rest.hands⟩
  | _ => w

/-- A walk that party `x` has handed over: it does not come back if `x` has handed the request over
again meanwhile. -/
def Walk.handedBy (x : Bool) (w : Walk E) : Walk E :=
  ⟨w.trace, if x ∈ w.hands then none else w.handled, x :: w.hands⟩

/-- What is handed over at a level. -/
def Level.handed (l : Level E) (ls : List (Level E)) : List (Level E) :=
  if l.tight = true then ls else l :: ls

/-- One party walks the levels; `hand` is what the other party does with a request handed to it. -/
def walkLevels (uses : Bool → Bool) (hand : Bool → List (Level E) → Walk E) (x : Bool) :
    List (Level E) → Walk E
  | [] => ⟨[], some false, []⟩
  | l :: ls =>
    runHandlers effect
      (if uses x = true ∧ l.handlers (!x) ≠ [] then
        ((hand (!x) (l.handed ls)).handedBy x).orElse (walkLevels uses hand x ls)
      else walkLevels uses hand x ls)
      (l.handlers x)

/-- The walk of a request that may change hands fewer than `bound` times. -/
def levelRun (uses : Bool → Bool) : (bound : ℕ) → Bool → List (Level E) → Walk E
  | 0, _, _ => ⟨[], none, []⟩
  | bound + 1, x, ls => walkLevels effect uses (levelRun uses bound) x ls

/-- The arrangements in which a request that party `x` holds runs nothing twice.  The request does
not come below a level with a handler that ends the chain, which at a tight level is one of `x`.  A
level above that belongs to one party only; and where it belongs to the other party, there is nothing
below it, or a handler from there on sets a result. -/
def Safe (x : Bool) : List (Level E) → Prop
  | [] => True
  | l :: ls =>
    Answers effect (if l.tight = true then l.handlers x else l.events) ∨
    (l.handlers (!x) = [] ∧ Safe x ls) ∨
    (l.handlers x = [] ∧ Safe (!x) ls ∧
      (ls = [] ∨ SetsResult effect (allHandlers (l :: ls))))

/-- The second party has no handlers before the first party ends the chain. -/
def Quiet : List (Level E) → Prop
  | [] => True
  | l :: ls => Answers effect (l.handlers false) ∨ (l.handlers true = [] ∧ Quiet ls)

/-- The arrangements in which nothing is run twice when the second party does not hand the request
back: at the first level where the second party has handlers one of its handlers from there on
sets a result, or the first party ends the chain before the second has handlers again. -/
def SafeDirect : List (Level E) → Prop
  | [] => True
  | l :: ls =>
    Answers effect (l.handlers false) ∨
    (l.handlers true = [] ∧ SafeDirect ls) ∨
    (l.handlers true ≠ [] ∧
      (SetsResult effect (handlersOf true (l.handed ls)) ∨ Quiet effect ls))

end Definitions

/-! ### Running handlers -/

section Handlers

variable {E : Type} {effect : E → Effect} {rest : Walk E} {es : List E}
variable (rest) in
/-- Handlers that do not end the chain all run. -/
lemma trace_runHandlers (h : ¬ Answers effect es) :
    (runHandlers effect rest es).trace = es ++ rest.trace := by
  induction es with
  | nil => rfl
  | cons e es ih =>
    have he : effect e ≠ .answers := fun he => h ⟨e, by simp, he⟩
    have hes : ¬ Answers effect es := fun ⟨e', he', ha⟩ => h ⟨e', by simp [he'], ha⟩
    rw [runHandlers, if_neg he, ih hes, List.cons_append]

/-- Whatever the handlers do, no other ones run before the rest of the chain. -/
lemma trace_runHandlers_sublist (rest : Walk E) (es : List E) :
    (runHandlers effect rest es).trace.Sublist (es ++ rest.trace) := by
  induction es with
  | nil => exact List.Sublist.refl _
  | cons e es ih =>
    rw [runHandlers]
    split_ifs
    · simp
    · exact ih.cons_cons e

/-- Handlers run one after the other. -/
lemma runHandlers_append (rest : Walk E) (es es' : List E) :
    runHandlers effect rest (es ++ es') =
      runHandlers effect (runHandlers effect rest es') es := by
  induction es with
  | nil => rfl
  | cons e es ih => rw [List.cons_append, runHandlers, runHandlers, ih]

variable (rest) in
/-- … and a result is found if one of them sets one, or in the rest of the chain. -/
lemma handled_runHandlers (h : ¬ Answers effect es) :
    (runHandlers effect rest es).handled =
      rest.handled.map fun b => decide (SetsResult effect es) || b := by
  induction es with
  | nil =>
    have hno : ¬ SetsResult effect ([] : List E) := fun ⟨e, he, _⟩ => nomatch he
    simp [runHandlers, hno]
  | cons e es ih =>
    have he : effect e ≠ .answers := fun he => h ⟨e, by simp, he⟩
    have hes : ¬ Answers effect es := fun ⟨e', he', ha⟩ => h ⟨e', by simp [he'], ha⟩
    have hsets : SetsResult effect (e :: es) ↔ effect e ≠ .passes ∨ SetsResult effect es := by
      simp [SetsResult]
    rw [runHandlers, if_neg he]
    show Option.map _ (runHandlers effect rest es).handled = _
    rw [ih hes, Option.map_map]
    congr 1
    funext b
    simp only [Function.comp_apply, hsets, Bool.decide_or, Bool.or_assoc]

variable (rest) in
/-- … and the request is handed over in the rest of the chain. -/
lemma hands_runHandlers (h : ¬ Answers effect es) :
    (runHandlers effect rest es).hands = rest.hands := by
  induction es with
  | nil => rfl
  | cons e es ih =>
    have he : effect e ≠ .answers := fun he => h ⟨e, by simp, he⟩
    have hes : ¬ Answers effect es := fun ⟨e', he', ha⟩ => h ⟨e', by simp [he'], ha⟩
    rw [runHandlers, if_neg he]
    exact ih hes

variable (rest) in
/-- A handler that ends the chain has its result, and nothing behind it runs. -/
lemma runHandlers_of_answers (h : Answers effect es) :
    (runHandlers effect rest es).handled = some true ∧
      (runHandlers effect rest es).trace <+: es := by
  induction es with
  | nil =>
    obtain ⟨e, he, -⟩ := h
    cases he
  | cons e es ih =>
    rw [runHandlers]
    split_ifs with he
    · exact ⟨rfl, by simp⟩
    · have hes : Answers effect es := by
        obtain ⟨e', he', ha⟩ := h
        rcases List.mem_cons.mp he' with rfl | he'
        · exact absurd ha he
        · exact ⟨e', he', ha⟩
      obtain ⟨hhandled, hinitial⟩ := ih hes
      exact ⟨by simp [hhandled], by simpa using hinitial⟩

/-- No handler hands the request over. -/
lemma hands_of_answers (h : Answers effect es) : (runHandlers effect rest es).hands = [] := by
  induction es with
  | nil =>
    obtain ⟨e, he, -⟩ := h
    cases he
  | cons e es ih =>
    rw [runHandlers]
    split_ifs with he
    · rfl
    · refine ih ?_
      obtain ⟨e', he', ha⟩ := h
      rcases List.mem_cons.mp he' with rfl | he'
      · exact absurd ha he
      · exact ⟨e', he', ha⟩

/-- A handler that ends the chain sets a result. -/
lemma Answers.setsResult (h : Answers effect es) : SetsResult effect es := by
  obtain ⟨e, he, ha⟩ := h
  exact ⟨e, he, by simp [ha]⟩

variable {es' : List E} {w : Walk E}

lemma SetsResult.mono (h : SetsResult effect es) (hsub : es ⊆ es') : SetsResult effect es' := by
  obtain ⟨e, he, hs⟩ := h
  exact ⟨e, hsub he, hs⟩

/-- Handlers that do not end the chain, before a walk that settles the rest. -/
lemma Walk.Settles.runHandlers (hrest : rest.Settles effect es') (h : ¬ Answers effect es) :
    (runHandlers effect rest es).Settles effect (es ++ es') where
  handled := by
    have hsets : SetsResult effect (es ++ es') ↔ SetsResult effect es ∨ SetsResult effect es' := by
      simp only [SetsResult, List.mem_append, or_and_right, exists_or]
    intro b hb
    rw [handled_runHandlers _ h] at hb
    obtain ⟨found, hfound, rfl⟩ := Option.map_eq_some_iff.mp hb
    rw [hrest.handled found hfound]
    simp only [hsets, Bool.decide_or]
  trace := by
    rw [trace_runHandlers _ h]
    exact (List.subperm_append_left es).mpr hrest.trace

/-- What a walk has done stays done when another one follows. -/
lemma trace_orElse_extends (w : Walk E) : w.trace <+: (w.orElse rest).trace := by
  unfold Walk.orElse
  split
  · exact List.prefix_append _ _
  · exact List.prefix_rfl

lemma Walk.orElse_of_handled (h : w.handled = some true) : w.orElse rest = w := by
  unfold Walk.orElse
  rw [h]

lemma Walk.orElse_of_unhandled (h : w.handled = some false) :
    w.orElse rest = ⟨w.trace ++ rest.trace, rest.handled, w.hands ++ rest.hands⟩ := by
  unfold Walk.orElse
  rw [h]

/-- A walk that does not come back is the last thing that is done. -/
lemma Walk.orElse_of_lost (h : w.handled = none) : w.orElse rest = w := by
  unfold Walk.orElse
  rw [h]

/-- A walk comes back to a party that has not handed the request over again. -/
lemma Walk.handled_handedBy {x : Bool} (h : x ∉ w.hands) : (w.handedBy x).handled = w.handled :=
  if_neg h

/-- A walk that is handed over does what it does. -/
lemma Walk.Settles.handedBy (h : w.Settles effect es) (x : Bool) :
    (w.handedBy x).Settles effect es where
  handled b hb := by
    unfold Walk.handedBy at hb
    dsimp only at hb
    split_ifs at hb
    · cases hb
    · exact h.handled b hb
  trace := h.trace

end Handlers

/-! ### Levels -/

section Levels

variable {E : Type}

/-- The handlers of either party at a level are among the handlers of the level. -/
lemma Level.handlers_sublist_events (l : Level E) (x : Bool) :
    (l.handlers x).Sublist l.events := by
  cases x
  · exact List.sublist_append_left _ _
  · exact List.sublist_append_right _ _

/-- The handlers of a level, in either order of the parties. -/
lemma Level.events_perm (l : Level E) (x : Bool) :
    (l.handlers x ++ l.handlers (!x)).Perm l.events := by
  cases x
  · exact List.Perm.refl _
  · exact List.perm_append_comm

lemma allHandlers_cons (l : Level E) (ls : List (Level E)) :
    allHandlers (l :: ls) = l.events ++ allHandlers ls := by
  simp [allHandlers]

/-- A level at which a party has no handlers belongs to the other one. -/
lemma Level.events_eq_of_nil {l : Level E} {x : Bool} (h : l.handlers x = []) :
    l.events = l.handlers (!x) := by
  unfold Level.events
  cases x
  · rw [h, List.nil_append, Bool.not_false]
  · rw [h, List.append_nil, Bool.not_true]

variable {effect : E → Effect} {uses : Bool → Bool} {x : Bool} {l : Level E}
  {ls : List (Level E)} {bound : ℕ}

/-- A party that does not hand the request over runs its handlers and goes on. -/
lemma levelRun_keep (h : uses x = true → l.handlers (!x) = []) :
    levelRun effect uses (bound + 1) x (l :: ls) =
      runHandlers effect (levelRun effect uses (bound + 1) x ls) (l.handlers x) := by
  have hno : ¬ (uses x = true ∧ l.handlers (!x) ≠ []) := fun hyes => hyes.2 (h hyes.1)
  rw [levelRun, walkLevels, if_neg hno]
  rfl

/-- A party that hands the request over goes on if the other one found no result. -/
lemma levelRun_hand (huses : uses x = true) (hother : l.handlers (!x) ≠ []) :
    levelRun effect uses (bound + 1) x (l :: ls) =
      runHandlers effect (((levelRun effect uses bound (!x) (l.handed ls)).handedBy x).orElse
        (levelRun effect uses (bound + 1) x ls)) (l.handlers x) := by
  rw [levelRun, walkLevels, if_pos ⟨huses, hother⟩]
  rfl

variable (uses ls bound) in
/-- A party that ends the chain at a level. -/
lemma levelRun_of_answers (h : Answers effect (l.handlers x)) :
    (levelRun effect uses (bound + 1) x (l :: ls)).handled = some true ∧
      (levelRun effect uses (bound + 1) x (l :: ls)).trace <+: l.handlers x := by
  rw [levelRun, walkLevels]
  exact runHandlers_of_answers _ h

/-- A level that belongs to one party is handed over. -/
lemma Level.handed_of_nil (h : l.handlers x = []) : l.handed ls = l :: ls :=
  if_neg fun htight => l.shared htight x h

lemma Level.handed_of_not_tight (h : l.tight = false) : l.handed ls = l :: ls := by
  simp [Level.handed, h]

/-- A level at which some party ends the chain, in the hands of either. -/
lemma answers_events_iff (x : Bool) :
    Answers effect l.events ↔
      Answers effect (l.handlers x) ∨ Answers effect (l.handlers (!x)) := by
  unfold Answers
  simp only [← (l.events_perm x).mem_iff, List.mem_append, or_and_right, exists_or]

end Levels

/-! ### Both parties hand the request over -/

section Relay

variable {E : Type} {effect : E → Effect} {uses : Bool → Bool} (huses : ∀ x, uses x = true)
  {l : Level E} {ls : List (Level E)} {x : Bool}

include huses in
/-- A level at which some party ends the chain settles everything below it. -/
lemma levelRun_settles_of_answers (bound : ℕ)
    (h : Answers effect (if l.tight = true then l.handlers x else l.events)) :
    (levelRun effect uses bound x (l :: ls)).Settles effect (allHandlers (l :: ls)) := by
  have hevents : l.events.Sublist (allHandlers (l :: ls)) := by
    rw [allHandlers_cons]
    exact List.sublist_append_left _ _
  have hanswers : Answers effect l.events := by
    split_ifs at h
    · exact (answers_events_iff x).mpr (Or.inl h)
    · exact h
  have hsets : SetsResult effect (allHandlers (l :: ls)) := hanswers.setsResult.mono hevents.subset
  cases bound with
  | zero => exact ⟨fun b hb => absurd hb (by simp [levelRun]), List.nil_subperm⟩
  | succ bound =>
    by_cases hx : Answers effect (l.handlers x)
    · obtain ⟨hhandled, hinitial⟩ := levelRun_of_answers uses ls bound hx
      refine ⟨fun b hb => ?_, ((hinitial.sublist.trans (l.handlers_sublist_events x)).trans
        hevents).subperm⟩
      rw [hhandled] at hb
      rw [decide_eq_true hsets, ← Option.some.inj hb]
    · -- the other party ends the chain
      have hother := ((answers_events_iff x).mp hanswers).resolve_left hx
      have hne : l.handlers (!x) ≠ [] := by
        obtain ⟨e, he, -⟩ := hother
        exact List.ne_nil_of_mem he
      have htight : l.tight = false := by
        by_contra htight
        rw [if_pos (by simpa using htight)] at h
        exact hx h
      have hpeer : ∀ b ∈ (levelRun effect uses bound (!x) (l :: ls)).handled, b = true := by
        cases bound with
        | zero => exact fun b hb => absurd hb (by simp [levelRun])
        | succ bound =>
          intro b hb
          rw [(levelRun_of_answers uses ls bound hother).1] at hb
          exact (Option.some.inj hb).symm
      have hinitial : (levelRun effect uses bound (!x) (l :: ls)).trace.Sublist (l.handlers (!x)) := by
        cases bound with
        | zero => exact List.nil_sublist _
        | succ bound => exact (levelRun_of_answers uses ls bound hother).2.sublist
      have hstop : ∀ rest : Walk E, ((levelRun effect uses bound (!x) (l :: ls)).handedBy x).orElse rest =
          (levelRun effect uses bound (!x) (l :: ls)).handedBy x := by
        intro rest
        cases hhandled : ((levelRun effect uses bound (!x) (l :: ls)).handedBy x).handled with
        | none => exact Walk.orElse_of_lost hhandled
        | some b =>
          have hb : b = true := by
            unfold Walk.handedBy at hhandled
            dsimp only at hhandled
            split_ifs at hhandled
            exact hpeer b hhandled
          exact Walk.orElse_of_handled (hb ▸ hhandled)
      rw [levelRun_hand (huses x) hne, Level.handed_of_not_tight htight, hstop]
      refine ⟨fun b hb => ?_, ?_⟩
      · rw [handled_runHandlers _ hx] at hb
        obtain ⟨found, hfound, rfl⟩ := Option.map_eq_some_iff.mp hb
        unfold Walk.handedBy at hfound
        dsimp only at hfound
        split_ifs at hfound
        rw [hpeer found hfound, decide_eq_true hsets, Bool.or_true]
      · rw [trace_runHandlers _ hx]
        exact ((((List.Sublist.refl (l.handlers x)).append hinitial).subperm.trans
          (l.events_perm x).subperm).trans hevents.subperm)

omit huses in
/-- A party that has a level to itself settles it with what is below. -/
lemma levelRun_settles_of_keep {bound : ℕ} (hkeep : l.handlers (!x) = [])
    (hx : ¬ Answers effect (l.handlers x))
    (hrest : (levelRun effect uses bound x ls).Settles effect (allHandlers ls)) :
    (levelRun effect uses bound x (l :: ls)).Settles effect (allHandlers (l :: ls)) := by
  cases bound with
  | zero => exact ⟨fun b hb => absurd hb (by simp [levelRun]), List.nil_subperm⟩
  | succ bound =>
    rw [levelRun_keep fun _ => hkeep, allHandlers_cons, Level.events_eq_of_nil hkeep, Bool.not_not]
    exact hrest.runHandlers hx

include huses in
/-- **A safe arrangement** is settled by a walk that may change hands at every level.

**Proof sketch.** Induction on the levels.  A level of the party that holds the request is run and
passed.  At a level of the other party the request changes hands; that party runs the level and goes
on, and if it comes back without a result, nothing is left. -/
theorem levelRun_of_safe : ∀ {x : Bool} {bound : ℕ}, (∀ l ∈ ls, l.events ≠ []) → Safe effect x ls →
    (levelRun effect uses bound x ls).Settles effect (allHandlers ls) := by
  induction ls with
  | nil =>
    intro x bound _ _
    have hno : ¬ SetsResult effect (allHandlers ([] : List (Level E))) :=
      fun ⟨e, he, _⟩ => absurd he (by simp [allHandlers])
    cases bound with
    | zero => exact ⟨fun b hb => absurd hb (by simp [levelRun]), List.nil_subperm⟩
    | succ bound =>
      refine ⟨fun b hb => ?_, List.nil_subperm⟩
      rw [decide_eq_false hno]
      exact (Option.some.inj hb).symm
  | cons l ls ih =>
    intro x bound hne hsafe
    have hne' : ∀ l ∈ ls, l.events ≠ [] := fun l' hl' => hne l' (by simp [hl'])
    by_cases hanswers : Answers effect (if l.tight = true then l.handlers x else l.events)
    · exact levelRun_settles_of_answers huses bound hanswers
    rcases hsafe.resolve_left hanswers with ⟨hkeep, hsafe⟩ | ⟨hnil, hsafe, hbelow⟩
    · have hx : ¬ Answers effect (l.handlers x) := by
        rwa [if_neg fun htight => l.shared htight _ hkeep, Level.events_eq_of_nil hkeep,
          Bool.not_not] at hanswers
      exact levelRun_settles_of_keep hkeep hx (ih hne' hsafe)
    · have hhand : l.handlers (!x) ≠ [] := Level.events_eq_of_nil hnil ▸ hne l (by simp)
      have hother : ¬ Answers effect (l.handlers (!x)) := by
        rwa [if_neg fun htight => l.shared htight _ hnil, Level.events_eq_of_nil hnil] at hanswers
      cases bound with
      | zero => exact ⟨fun b hb => absurd hb (by simp [levelRun]), List.nil_subperm⟩
      | succ bound =>
        have hpeer : ((levelRun effect uses bound (!x) (l :: ls)).handedBy x).Settles effect
            (allHandlers (l :: ls)) :=
          (levelRun_settles_of_keep (by rwa [Bool.not_not]) hother (ih hne' hsafe)).handedBy x
        rw [levelRun_hand (huses x) hhand, hnil, Level.handed_of_nil hnil]
        show Walk.Settles effect (Walk.orElse _ _) _
        cases hhandled : ((levelRun effect uses bound (!x) (l :: ls)).handedBy x).handled with
        | none => rwa [Walk.orElse_of_lost hhandled]
        | some found =>
          have hfound := hpeer.handled found hhandled
          by_cases hsets : SetsResult effect (allHandlers (l :: ls))
          · rw [decide_eq_true hsets] at hfound
            rwa [Walk.orElse_of_handled (hfound ▸ hhandled)]
          · obtain rfl := hbelow.resolve_right hsets
            rw [decide_eq_false hsets] at hfound
            rw [Walk.orElse_of_unhandled (hfound ▸ hhandled)]
            refine ⟨fun b hb => ?_, by simpa [levelRun, walkLevels] using hpeer.trace⟩
            rw [decide_eq_false hsets]
            exact (Option.some.inj hb).symm

include huses in
/-- A safe arrangement in which nobody sets a result: the walk comes back unhandled, and only its own
party has handed the request over.

**Proof sketch.** Induction on the levels.  All of them but the last belong to the party that holds the
request. -/
lemma levelRun_of_safe_silent : ∀ {x : Bool} {bound : ℕ}, (∀ l ∈ ls, l.events ≠ []) →
    Safe effect x ls → ¬ SetsResult effect (allHandlers ls) →
    (levelRun effect uses (bound + 2) x ls).handled = some false ∧
      (!x) ∉ (levelRun effect uses (bound + 2) x ls).hands := by
  induction ls with
  | nil => exact fun _ _ _ => ⟨rfl, by simp [levelRun, walkLevels]⟩
  | cons l ls ih =>
    intro x bound hne hsafe hsets
    have hno : ¬ SetsResult effect l.events := fun h => hsets (h.mono (by simp [allHandlers]))
    have hparty : ∀ y, ¬ SetsResult effect (l.handlers y) := fun y h =>
      hno (h.mono (l.handlers_sublist_events y).subset)
    have hanswers : ∀ y, ¬ Answers effect (l.handlers y) := fun y h => hparty y h.setsResult
    have hnever : ¬ Answers effect (if l.tight = true then l.handlers x else l.events) := by
      split_ifs
      · exact hanswers x
      · exact fun h => hno h.setsResult
    rcases hsafe.resolve_left hnever with ⟨hkeep, hsafe⟩ | ⟨hnil, -, hbelow⟩
    · obtain ⟨hhandled, hhands⟩ := @ih x bound (fun l' hl' => hne l' (by simp [hl'])) hsafe fun h =>
        hsets (h.mono (by simp [allHandlers]))
      rw [levelRun_keep fun _ => hkeep, handled_runHandlers _ (hanswers x),
        hands_runHandlers _ (hanswers x), hhandled]
      exact ⟨by simp [hparty x], hhands⟩
    · obtain rfl := hbelow.resolve_right hsets
      have hhand : l.handlers (!x) ≠ [] := Level.events_eq_of_nil hnil ▸ hne l (by simp)
      have hlast : levelRun effect uses (bound + 1) (!x) [l] =
          runHandlers effect ⟨[], some false, []⟩ (l.handlers (!x)) :=
        levelRun_keep fun _ => by rwa [Bool.not_not]
      have hhands : x ∉ (levelRun effect uses (bound + 1) (!x) [l]).hands := by
        rw [hlast, hands_runHandlers _ (hanswers _)]
        simp
      have hhandled : ((levelRun effect uses (bound + 1) (!x) [l]).handedBy x).handled =
          some false := by
        rw [Walk.handled_handedBy hhands, hlast, handled_runHandlers _ (hanswers _)]
        simp [hparty]
      rw [levelRun_hand (huses x) hhand, hnil, Level.handed_of_nil hnil]
      show (Walk.orElse _ _).handled = _ ∧ _ ∉ (Walk.orElse _ _).hands
      rw [Walk.orElse_of_unhandled hhandled]
      refine ⟨rfl, ?_⟩
      show (!x) ∉ (x :: (levelRun effect uses (bound + 1) (!x) [l]).hands) ++ []
      rw [hlast, hands_runHandlers _ (hanswers _)]
      simp

variable (ls x) in
include huses in
/-- A party that walks a level on which the chain goes on sees to it that all its handlers run. -/
lemma events_subset_levelRun (bound : ℕ) (htight : l.tight = false) (h : ¬ Answers effect l.events) :
    l.events ⊆ (levelRun effect uses (bound + 2) x (l :: ls)).trace := by
  obtain ⟨hx, hother⟩ := not_or.mp ((answers_events_iff x).not.mp h)
  intro e he
  by_cases hkeep : l.handlers (!x) = []
  · rw [levelRun_keep fun _ => hkeep, trace_runHandlers _ hx]
    rw [Level.events_eq_of_nil hkeep, Bool.not_not] at he
    exact List.mem_append_left _ he
  · rw [levelRun_hand (huses x) hkeep, trace_runHandlers _ hx, Level.handed_of_not_tight htight]
    rcases List.mem_append.mp ((l.events_perm x).mem_iff.mpr he) with he | he
    · exact List.mem_append_left _ he
    · -- the other party runs its handlers first
      have hpeer : e ∈ (levelRun effect uses (bound + 1) (!x) (l :: ls)).trace := by
        rw [levelRun, walkLevels, trace_runHandlers _ hother]
        exact List.mem_append_left _ he
      exact List.mem_append_right _ ((trace_orElse_extends
        ((levelRun effect uses (bound + 1) (!x) (l :: ls)).handedBy x)).subset hpeer)

include huses in
/-- **An arrangement that is not safe**: some walk runs a handler twice, if no level is tight.

**Proof sketch.** Induction on the levels down to the first one that breaks the condition.  If both
parties have handlers there, the request comes back and the level is run again.  If it is a level of
the other party, nobody sets a result from there on, and there is a next level, then both parties
run that one: the request comes back from the other party, since only that one has handed it over. -/
theorem exists_levelRun_of_not_safe : ∀ {x : Bool}, (∀ l ∈ ls, l.events ≠ [] ∧ l.tight = false) →
    ¬ Safe effect x ls → ∃ bound, ¬ (levelRun effect uses bound x ls).trace.Nodup := by
  induction ls with
  | nil => intro x _ hsafe; exact absurd trivial hsafe
  | cons l ls ih =>
    intro x hne hsafe
    have hne' : ∀ l ∈ ls, l.events ≠ [] ∧ l.tight = false := fun l' hl' => hne l' (by simp [hl'])
    have htight := (hne l (by simp)).2
    simp only [Safe, not_or] at hsafe
    obtain ⟨hanswers, hown, hpeer⟩ := hsafe
    rw [if_neg (by simp [htight])] at hanswers
    obtain ⟨hx, hother⟩ := not_or.mp ((answers_events_iff x).not.mp hanswers)
    by_cases hkeep : l.handlers (!x) = []
    · -- a level of the party that holds the request
      obtain ⟨bound, hbound⟩ := ih hne' fun hsafe => hown ⟨hkeep, hsafe⟩
      cases bound with
      | zero => exact absurd List.nodup_nil hbound
      | succ bound =>
        refine ⟨bound + 1, fun hnodup => hbound ?_⟩
        rw [levelRun_keep fun _ => hkeep, trace_runHandlers _ hx] at hnodup
        exact (List.nodup_append.mp hnodup).2.1
    by_cases hnil : l.handlers x = []
    · have hwalk : ∀ bound, levelRun effect uses (bound + 1) x (l :: ls) =
          ((levelRun effect uses bound (!x) (l :: ls)).handedBy x).orElse
            (levelRun effect uses (bound + 1) x ls) := fun bound => by
        rw [levelRun_hand (huses x) hkeep, hnil, Level.handed_of_nil hnil]
        rfl
      have hpeerWalk : ∀ bound, levelRun effect uses (bound + 1) (!x) (l :: ls) =
          runHandlers effect (levelRun effect uses (bound + 1) (!x) ls) (l.handlers (!x)) :=
        fun bound => levelRun_keep fun _ => by rwa [Bool.not_not]
      by_cases hsafe : Safe effect (!x) ls
      · -- no result from here on: the next level is run by both parties
        obtain ⟨hls, hsets⟩ := not_or.mp fun hbelow => hpeer ⟨hnil, hsafe, hbelow⟩
        obtain ⟨l', ls', hcons⟩ := List.exists_cons_of_ne_nil hls
        obtain ⟨hne'', htight'⟩ := hne' l' (by simp [hcons])
        obtain ⟨e, he⟩ := List.exists_mem_of_ne_nil _ hne''
        have hruns : ∀ y bound, e ∈ (levelRun effect uses (bound + 2) y ls).trace := by
          intro y bound
          have hno : ¬ Answers effect l'.events := fun h => hsets (h.setsResult.mono fun e he => by
            rw [hcons, allHandlers_cons, allHandlers_cons]
            exact List.mem_append_right _ (List.mem_append_left _ he))
          have hsub := events_subset_levelRun huses ls' y bound htight' hno
          rw [← hcons] at hsub
          exact hsub he
        have hback : ((levelRun effect uses 2 (!x) (l :: ls)).handedBy x).handled = some false := by
          obtain ⟨hhandled, hhands⟩ := @levelRun_of_safe_silent E effect uses huses ls (!x) 0
            (fun l hl => (hne' l hl).1) hsafe fun h => hsets (h.mono (by simp [allHandlers]))
          have hparty : ¬ SetsResult effect (l.handlers (!x)) := fun h => hsets (h.mono fun e he => by
            rw [allHandlers_cons]
            exact List.mem_append_left _ ((l.handlers_sublist_events _).subset he))
          rw [Bool.not_not] at hhands
          rw [Walk.handled_handedBy, hpeerWalk, handled_runHandlers _ hother, hhandled]
          · simp [hparty]
          · rwa [hpeerWalk, hands_runHandlers _ hother]
        refine ⟨3, fun hnodup => ?_⟩
        rw [hwalk, Walk.orElse_of_unhandled hback] at hnodup
        refine (List.nodup_append.mp hnodup).2.2 e ?_ e (hruns _ _) rfl
        show e ∈ (levelRun effect uses 2 (!x) (l :: ls)).trace
        rw [hpeerWalk, trace_runHandlers _ hother]
        exact List.mem_append_right _ (hruns _ _)
      · obtain ⟨bound, hbound⟩ := ih hne' hsafe
        cases bound with
        | zero => exact absurd List.nodup_nil hbound
        | succ bound =>
          refine ⟨bound + 2, fun hnodup => hbound ?_⟩
          rw [hwalk] at hnodup
          have hpre := hnodup.sublist (trace_orElse_extends _).sublist
          change (levelRun effect uses (bound + 1) (!x) (l :: ls)).trace.Nodup at hpre
          rw [hpeerWalk, trace_runHandlers _ hother] at hpre
          exact (List.nodup_append.mp hpre).2.1
    · -- a shared level: the request comes back to the party that ran it
      obtain ⟨e, he⟩ := List.exists_mem_of_ne_nil _ hnil
      have hback : e ∈ (levelRun effect uses 1 (!!x) (l :: ls)).trace := by
        rw [Bool.not_not, levelRun, walkLevels, trace_runHandlers _ hx]
        exact List.mem_append_left _ he
      have hpeer : e ∈ (levelRun effect uses 2 (!x) (l :: ls)).trace := by
        rw [levelRun_hand (huses _) (by rwa [Bool.not_not]), trace_runHandlers _ hother,
          Level.handed_of_not_tight htight]
        exact List.mem_append_right _ ((trace_orElse_extends
          ((levelRun effect uses 1 (!!x) (l :: ls)).handedBy (!x))).subset hback)
      refine ⟨3, fun hnodup => ?_⟩
      rw [levelRun_hand (huses x) hkeep, trace_runHandlers _ hx, Level.handed_of_not_tight htight] at hnodup
      exact (List.nodup_append.mp hnodup).2.2 e he e ((trace_orElse_extends
        ((levelRun effect uses 2 (!x) (l :: ls)).handedBy x)).subset hpeer) rfl

end Relay

/-! ### The second party keeps the request -/

section Direct

variable {E : Type} {effect : E → Effect} {uses : Bool → Bool} (hfirst : uses false = true)
  (hsecond : uses true = false) {l : Level E} {ls : List (Level E)}

lemma handlersOf_cons (x : Bool) (l : Level E) (ls : List (Level E)) :
    handlersOf x (l :: ls) = l.handlers x ++ handlersOf x ls := by
  simp [handlersOf]

/-- The handlers of both parties are all handlers. -/
lemma handlersOf_append_perm (ls : List (Level E)) :
    (handlersOf false ls ++ handlersOf true ls).Perm (allHandlers ls) :=
  List.flatMap_append_perm ls _ _

include hsecond in
/-- The second party runs its own handlers only. -/
lemma levelRun_second (bound : ℕ) (ls : List (Level E)) :
    levelRun effect uses (bound + 1) true ls =
      runHandlers effect ⟨[], some false, []⟩ (handlersOf true ls) := by
  induction ls with
  | nil => rfl
  | cons l ls ih =>
    rw [levelRun_keep fun h => absurd h (by simp [hsecond]), ih, handlersOf_cons,
      runHandlers_append]

variable (effect) in
include hsecond in
/-- The second party settles its own handlers and comes back to the first one, … -/
lemma levelRun_second_settles (bound : ℕ) (ls : List (Level E)) :
    ((levelRun effect uses (bound + 1) true ls).handedBy false).handled =
        some (decide (SetsResult effect (handlersOf true ls))) ∧
      ((levelRun effect uses (bound + 1) true ls).handedBy false).trace.Subperm (handlersOf true ls) := by
  rw [levelRun_second hsecond]
  by_cases h : Answers effect (handlersOf true ls)
  · obtain ⟨hhandled, hinitial⟩ := runHandlers_of_answers ⟨[], some false, []⟩ h
    rw [Walk.handled_handedBy (by rw [hands_of_answers h]; simp), hhandled, decide_eq_true h.setsResult]
    exact ⟨rfl, hinitial.sublist.subperm⟩
  · rw [Walk.handled_handedBy (by rw [hands_runHandlers _ h]; simp), handled_runHandlers _ h]
    refine ⟨by simp, ?_⟩
    show (runHandlers effect _ _).trace.Subperm _
    rw [trace_runHandlers _ h, List.append_nil]

include hsecond in
/-- … and runs all of them if none sets a result. -/
lemma trace_levelRun_second (bound : ℕ) (h : ¬ SetsResult effect (handlersOf true ls)) :
    (levelRun effect uses (bound + 1) true ls).trace = handlersOf true ls := by
  rw [levelRun_second hsecond, trace_runHandlers _ fun ha => h ha.setsResult, List.append_nil]

/-- While the second party has no handlers, the first one runs its own. -/
lemma levelRun_of_quiet (bound : ℕ) (h : Quiet effect ls) :
    (levelRun effect uses (bound + 1) false ls).trace.Sublist (handlersOf false ls) := by
  induction ls with
  | nil => exact List.nil_sublist _
  | cons l ls ih =>
    rw [handlersOf_cons]
    rcases h with h | ⟨hnil, h⟩
    · exact (levelRun_of_answers uses ls bound h).2.sublist.trans (List.sublist_append_left _ _)
    · rw [levelRun_keep fun _ => hnil]
      exact (trace_runHandlers_sublist _ _).trans ((List.Sublist.refl _).append (ih h))

/-- What is handed over holds none but the second party's handlers from the level on. -/
lemma handlersOf_handed_sublist (x : Bool) :
    (handlersOf x (l.handed ls)).Sublist (handlersOf x (l :: ls)) := by
  unfold Level.handed
  split_ifs
  · rw [handlersOf_cons]
    exact List.sublist_append_right _ _
  · exact List.Sublist.refl _

include hfirst hsecond in
/-- **A safe arrangement**: nothing is run more often than it is listed. -/
theorem levelRun_of_safeDirect (bound : ℕ) (h : SafeDirect effect ls) :
    (levelRun effect uses (bound + 1) false ls).trace.Subperm
      (handlersOf false ls ++ handlersOf true ls) := by
  induction ls with
  | nil => exact List.nil_subperm
  | cons l ls ih =>
    by_cases hanswers : Answers effect (l.handlers false)
    · refine ((levelRun_of_answers uses ls bound hanswers).2.sublist.trans ?_).subperm
      rw [handlersOf_cons, List.append_assoc]
      exact List.sublist_append_left _ _
    rcases h.resolve_left hanswers with ⟨hnil, h⟩ | ⟨hnil, h⟩
    · rw [levelRun_keep fun _ => hnil, trace_runHandlers _ hanswers, handlersOf_cons,
        handlersOf_cons, hnil, List.nil_append, List.append_assoc]
      exact (List.subperm_append_left _).mpr (ih h)
    · -- the request is handed over, and comes back only if no result was found
      rw [levelRun_hand hfirst hnil, trace_runHandlers _ hanswers, handlersOf_cons,
        List.append_assoc, List.subperm_append_left]
      cases bound with
      | zero =>
        rw [Walk.orElse_of_lost (Walk.handled_handedBy List.not_mem_nil)]
        exact List.nil_subperm
      | succ bound =>
        obtain ⟨hhandled, htrace⟩ := levelRun_second_settles effect hsecond bound (l.handed ls)
        have hpeer := htrace.trans (@handlersOf_handed_sublist E l ls true).subperm
        show (Walk.orElse ((levelRun effect uses (bound + 1) true (l.handed ls)).handedBy
          false) _).trace.Subperm _
        by_cases hsets : SetsResult effect (handlersOf true (l.handed ls))
        · rw [Walk.orElse_of_handled (by rw [hhandled, decide_eq_true hsets])]
          exact hpeer.trans (List.sublist_append_right _ _).subperm
        · have hquiet : Quiet effect ls := h.resolve_left hsets
          rw [Walk.orElse_of_unhandled (by rw [hhandled, decide_eq_false hsets])]
          exact (hpeer.append (levelRun_of_quiet (bound + 1) hquiet).subperm).trans
            List.perm_append_comm.subperm

include hfirst hsecond in
/-- Where the second party has handlers before the first one ends the chain, one of them is run. -/
lemma exists_mem_levelRun_of_not_quiet (bound : ℕ) (htight : ∀ l ∈ ls, l.tight = false)
    (h : ¬ Quiet effect ls) (hsets : ¬ SetsResult effect (handlersOf true ls)) :
    ∃ e ∈ handlersOf true ls, e ∈ (levelRun effect uses (bound + 2) false ls).trace := by
  induction ls with
  | nil => exact absurd trivial h
  | cons l ls ih =>
    obtain ⟨hanswers, hrest⟩ := not_or.mp h
    by_cases hnil : l.handlers true = []
    · rw [handlersOf_cons, hnil, List.nil_append] at hsets ⊢
      obtain ⟨e, he, hmem⟩ := ih (fun l' hl' => htight l' (by simp [hl']))
        (fun hquiet => hrest ⟨hnil, hquiet⟩) hsets
      refine ⟨e, he, ?_⟩
      rw [levelRun_keep fun _ => hnil, trace_runHandlers _ hanswers]
      exact List.mem_append_right _ hmem
    · obtain ⟨e, he⟩ := List.exists_mem_of_ne_nil _ hnil
      have hmem : e ∈ handlersOf true (l :: ls) := by
        rw [handlersOf_cons]
        exact List.mem_append_left _ he
      refine ⟨e, hmem, ?_⟩
      rw [levelRun_hand hfirst hnil, trace_runHandlers _ hanswers,
        Level.handed_of_not_tight (htight l (by simp))]
      refine List.mem_append_right _ ((trace_orElse_extends _).subset ?_)
      show e ∈ (levelRun effect uses (bound + 1) true (l :: ls)).trace
      rwa [trace_levelRun_second hsecond bound hsets]

include hfirst hsecond in
/-- **An arrangement that is not safe**: a handler of the second party is run twice, if no level is
tight. -/
theorem levelRun_of_not_safeDirect (bound : ℕ) (htight : ∀ l ∈ ls, l.tight = false)
    (h : ¬ SafeDirect effect ls) : ¬ (levelRun effect uses (bound + 2) false ls).trace.Nodup := by
  induction ls with
  | nil => exact absurd trivial h
  | cons l ls ih =>
    have htight' : ∀ l ∈ ls, l.tight = false := fun l' hl' => htight l' (by simp [hl'])
    have hhanded : l.handed ls = l :: ls := Level.handed_of_not_tight (htight l (by simp))
    simp only [SafeDirect, not_or, hhanded] at h
    obtain ⟨hanswers, hown, hhands⟩ := h
    by_cases hnil : l.handlers true = []
    · rw [levelRun_keep fun _ => hnil, trace_runHandlers _ hanswers]
      exact fun hnodup => ih htight' (fun hsafe => hown ⟨hnil, hsafe⟩) (List.nodup_append.mp hnodup).2.1
    · obtain ⟨hsets, hquiet⟩ := not_or.mp fun h => hhands ⟨hnil, h⟩
      have hsets' : ¬ SetsResult effect (handlersOf true ls) := fun h => hsets <| h.mono <| by
        rw [handlersOf_cons]
        exact List.subset_append_right _ _
      obtain ⟨e, he, hmem⟩ := exists_mem_levelRun_of_not_quiet hfirst hsecond bound htight' hquiet hsets'
      have hhandled := (levelRun_second_settles effect hsecond bound (l :: ls)).1
      rw [levelRun_hand hfirst hnil, trace_runHandlers _ hanswers, hhanded]
      show ¬ (_ ++ (Walk.orElse ((levelRun effect uses (bound + 1) true (l :: ls)).handedBy
        false) _).trace).Nodup
      rw [Walk.orElse_of_unhandled (by rw [hhandled, decide_eq_false hsets])]
      show ¬ (_ ++ ((levelRun effect uses (bound + 1) true (l :: ls)).trace ++ _)).Nodup
      rw [trace_levelRun_second hsecond bound hsets]
      intro hnodup
      refine (List.nodup_append.mp (List.nodup_append.mp hnodup).2.1).2.2 e ?_ e hmem rfl
      rw [handlersOf_cons]
      exact List.mem_append_right _ he

end Direct

end Makaio.Bus
