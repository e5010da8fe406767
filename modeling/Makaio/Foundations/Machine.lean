import Mathlib.Tactic

set_option autoImplicit false

/-!
# Machines, guarded runs and invariants

A *machine* is a partial step function on states: `step s a = some t` when action `a` is enabled
in `s` and leads to `t`.  A run is a sequence of enabled actions from an initial state; it is
*guarded* by a predicate `ok` when every action satisfied `ok` in the state it was taken from.

## Main definitions

* `Reach` — states reached by guarded runs.
* `runGuarded` — a guarded run given by its list of actions, for evaluation.

## Main results

* `Reach.invariant` — the invariant rule: initial, preserved by every guarded step.
* `Reach.of_runGuarded` — an evaluated run reaches its last state.
-/

namespace Foundations

variable {σ α : Type*}

/-- The states reached from `init` by runs of `step` all of whose actions satisfy `ok` in the
state they are taken from. -/
inductive Reach (init : σ → Prop) (step : σ → α → Option σ) (ok : σ → α → Prop) : σ → Prop
  | start {s : σ} : init s → Reach init step ok s
  | next {s t : σ} {a : α} : Reach init step ok s → ok s a → step s a = some t →
      Reach init step ok t

variable {init : σ → Prop} {ok : σ → α → Prop} {step : σ → α → Option σ}

/-- **The invariant rule**: a predicate that holds initially and is preserved by every guarded
step holds in every state a guarded run reaches. -/
theorem Reach.invariant (Inv : σ → Prop) (hinit : ∀ s, init s → Inv s)
    (hstep : ∀ s a t, Inv s → ok s a → step s a = some t → Inv t) {s : σ} (hs : Reach init step ok s) :
    Inv s := by
  induction hs with
  | start h => exact hinit _ h
  | next _ hok hst ih => exact hstep _ _ _ ih hok hst

/-- The state after a list of actions, if each of them is enabled and satisfies the guard in the
state it is taken from. -/
def runGuarded (step : σ → α → Option σ) (ok : σ → α → Prop) [∀ s a, Decidable (ok s a)] :
    σ → List α → Option σ
  | s, [] => some s
  | s, a :: as => if ok s a then (step s a).bind fun t => runGuarded step ok t as else none

/-- A guarded list of actions from a reached state reaches its last state. -/
theorem Reach.of_runGuarded [∀ s a, Decidable (ok s a)] (as : List α) : ∀ {s t : σ}, Reach init step ok s →
      runGuarded step ok s as = some t → Reach init step ok t := by
  induction as with
  | nil =>
    intro s t hs ht
    rw [runGuarded, Option.some.injEq] at ht
    exact ht ▸ hs
  | cons a as ih =>
    intro s t hs ht
    rw [runGuarded] at ht
    split_ifs at ht with hok
    obtain ⟨u, hu, hut⟩ := Option.bind_eq_some_iff.mp ht
    exact ih (.next hs hok hu) hut

end Foundations
