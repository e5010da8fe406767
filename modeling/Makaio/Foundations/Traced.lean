import Mathlib.Tactic

set_option autoImplicit false

/-!
# Traced runs

The result of running an asynchronous computation up to a resource bound: the observable events in
order, and how the run ended.  A run ends with a value, with a rejection, or it is *cut off* at
the bound while something is still pending; what would have followed a cut-off computation has not
happened.

## Main definitions

* `Ending`, `Traced` — a run with its trace.
* `Traced.settle` — continue after a value or a rejection (`try … catch`).
* `Traced.andThen` — continue after a value only (`await`).
* `Traced.event` — record an event first.
* `Traced.Extends` — the same run under a larger bound.

## Main results

* `Traced.settle_of_settled`, `settle_of_cutOff` — how a continuation sees an ending.
* `Traced.exists_of_settle_eq` — what a run that did end tells about its parts.
* `Traced.Extends.settle` — continuations keep the order "runs further".
-/

namespace Foundations

variable {τ ε α β : Type*}

/-- How a run ended. -/
inductive Ending (ε α : Type*)
  | value (a : α)
  | error (e : ε)
  | cutOff
  deriving DecidableEq

/-- The ending of a computation that did end. -/
def Ending.ofExcept : Except ε α → Ending ε α
  | .ok a => .value a
  | .error e => .error e

@[simp] lemma Ending.ofExcept_ok (a : α) : (Ending.ofExcept (.ok a) : Ending ε α) = .value a := rfl

@[simp] lemma Ending.ofExcept_error (e : ε) :
    (Ending.ofExcept (.error e) : Ending ε α) = .error e := rfl

variable {r : Except ε α}

lemma Ending.ofExcept_inj {r' : Except ε α} : Ending.ofExcept r = Ending.ofExcept r' ↔ r = r' := by
  cases r <;> cases r' <;> simp [Ending.ofExcept]

/-- A run: the events in order, and how it ended. -/
structure Traced (τ ε α : Type*) where
  trace : List τ
  ending : Ending ε α

namespace Traced

/-- A run that ends at once with a value. -/
def pure (a : α) : Traced τ ε α := ⟨[], .value a⟩

/-- A run that ends at once with a rejection. -/
def throw (e : ε) : Traced τ ε α := ⟨[], .error e⟩

/-- A run cut off at the resource bound. -/
def cutOff : Traced τ ε α := ⟨[], .cutOff⟩

/-- Record an event before a run. -/
def event (t : τ) (x : Traced τ ε α) : Traced τ ε α := ⟨t :: x.trace, x.ending⟩

/-- Continue a run after its value or its rejection. -/
def settle (x : Traced τ ε α) (f : Except ε α → Traced τ ε β) : Traced τ ε β :=
  match x.ending with
  | .value a => ⟨x.trace ++ (f (.ok a)).trace, (f (.ok a)).ending⟩
  | .error e => ⟨x.trace ++ (f (.error e)).trace, (f (.error e)).ending⟩
  | .cutOff => ⟨x.trace, .cutOff⟩

/-- Continue a run after its value; a rejection passes through. -/
def andThen (x : Traced τ ε α) (f : α → Traced τ ε β) : Traced τ ε β :=
  x.settle fun
    | .ok a => f a
    | .error e => throw e

/-- Change the rejection of a run. -/
def mapError (f : ε → ε) (x : Traced τ ε α) : Traced τ ε α where
  trace := x.trace
  ending := match x.ending with
    | .value a => .value a
    | .error e => .error (f e)
    | .cutOff => .cutOff

@[simp] lemma trace_pure (a : α) : (pure a : Traced τ ε α).trace = [] := rfl

@[simp] lemma ending_pure (a : α) : (pure a : Traced τ ε α).ending = .value a := rfl

@[simp] lemma trace_throw (e : ε) : (throw e : Traced τ ε α).trace = [] := rfl

@[simp] lemma ending_throw (e : ε) : (throw e : Traced τ ε α).ending = .error e := rfl

@[simp] lemma trace_cutOff : (cutOff : Traced τ ε α).trace = [] := rfl

@[simp] lemma ending_cutOff : (cutOff : Traced τ ε α).ending = .cutOff := rfl

@[simp] lemma trace_event (t : τ) (x : Traced τ ε α) : (event t x).trace = t :: x.trace := rfl

@[simp] lemma ending_event (t : τ) (x : Traced τ ε α) : (event t x).ending = x.ending := rfl

@[simp] lemma settle_pure (a : α) (f : Except ε α → Traced τ ε β) :
    (pure a).settle f = f (.ok a) := rfl

@[simp] lemma settle_throw (e : ε) (f : Except ε α → Traced τ ε β) :
    (throw e).settle f = f (.error e) := rfl

/-- A run has been cut off, or it has ended. -/
lemma ending_cases (x : Traced τ ε α) : x.ending = .cutOff ∨ ∃ r, x.ending = .ofExcept r := by
  cases x.ending with
  | value a => exact Or.inr ⟨.ok a, rfl⟩
  | error e => exact Or.inr ⟨.error e, rfl⟩
  | cutOff => exact Or.inl rfl

variable {x : Traced τ ε α}

/-- A continuation runs after a computation that ended. -/
lemma settle_of_settled (hx : x.ending = .ofExcept r) (f : Except ε α → Traced τ ε β) :
    x.settle f = ⟨x.trace ++ (f r).trace, (f r).ending⟩ := by
  cases r with
  | ok a | error e => rw [settle, hx]; rfl

/-- Nothing runs after a computation that was cut off. -/
lemma settle_of_cutOff (hx : x.ending = .cutOff) (f : Except ε α → Traced τ ε β) :
    x.settle f = ⟨x.trace, .cutOff⟩ := by
  rw [settle, hx]

variable {f : Except ε α → Traced τ ε β} {y : Traced τ ε α}

/-- A continuation that does nothing observable adds nothing to the trace. -/
lemma trace_settle_of_nil (hf : ∀ r, (f r).trace = []) : (x.settle f).trace = x.trace := by
  rcases x.ending_cases with hx | ⟨r, hx⟩
  · rw [settle_of_cutOff hx]
  · rw [settle_of_settled hx, hf, List.append_nil]

/-- If a continued run ended, so did its first part, and the continuation ended the same way. -/
lemma exists_of_settle_eq {r : Except ε β} (h : (x.settle f).ending = .ofExcept r) :
    ∃ r', x.ending = .ofExcept r' ∧ (f r').ending = .ofExcept r ∧
      (x.settle f).trace = x.trace ++ (f r').trace := by
  rcases x.ending_cases with hx | ⟨r', hx⟩
  · rw [settle_of_cutOff hx] at h
    cases r <;> cases h
  · refine ⟨r', hx, ?_, ?_⟩
    · rwa [settle_of_settled hx] at h
    · rw [settle_of_settled hx]

/-- If a continued run was cut off, so was its first part, or the continuation after it ended. -/
lemma exists_of_settle_cutOff (h : (x.settle f).ending = .cutOff) :
    x.ending = .cutOff ∧ (x.settle f).trace = x.trace ∨
      ∃ r, x.ending = .ofExcept r ∧ (f r).ending = .cutOff ∧
        (x.settle f).trace = x.trace ++ (f r).trace := by
  rcases x.ending_cases with hx | ⟨r, hx⟩
  · exact Or.inl ⟨hx, by rw [settle_of_cutOff hx]⟩
  · rw [settle_of_settled hx] at h ⊢
    exact Or.inr ⟨r, hx, h, rfl⟩

@[simp] lemma settle_event (t : τ) (x : Traced τ ε α) (f : Except ε α → Traced τ ε β) :
    (event t x).settle f = event t (x.settle f) := by
  obtain ⟨trace, ending⟩ := x
  cases ending <;> rfl

/-- If a run continued after its value ended, its first part was rejected, or had a value with which
the continuation ended the same way. -/
lemma exists_of_andThen_eq {f : α → Traced τ ε β} {r : Except ε β} (h : (x.andThen f).ending = .ofExcept r) :
    (∃ e, x.ending = .error e ∧ r = .error e) ∨
      ∃ a, x.ending = .value a ∧ (f a).ending = .ofExcept r ∧
        (x.andThen f).trace = x.trace ++ (f a).trace := by
  obtain ⟨r', hx, hf, htrace⟩ := exists_of_settle_eq h
  cases r' with
  | error e =>
    refine Or.inl ⟨e, hx, ?_⟩
    have he : Ending.ofExcept (.error e) = Ending.ofExcept r := hf
    exact (Ending.ofExcept_inj.mp he).symm
  | ok a => exact Or.inr ⟨a, hx, hf, htrace⟩

/-- If a run continued after its value was cut off, so was its first part, or the continuation. -/
lemma exists_of_andThen_cutOff {f : α → Traced τ ε β} (h : (x.andThen f).ending = .cutOff) :
    x.ending = .cutOff ∧ (x.andThen f).trace = x.trace ∨
      ∃ a, x.ending = .value a ∧ (f a).ending = .cutOff ∧
        (x.andThen f).trace = x.trace ++ (f a).trace := by
  rcases exists_of_settle_cutOff h with hx | ⟨r, hx, hf, htrace⟩
  · exact Or.inl hx
  · cases r with
    | error e => cases hf
    | ok a => exact Or.inr ⟨a, hx, hf, htrace⟩

@[simp] lemma trace_mapError (f : ε → ε) (x : Traced τ ε α) : (x.mapError f).trace = x.trace := rfl

/-- A run with changed rejection ended as the run did. -/
lemma exists_of_mapError_eq {f : ε → ε} (h : (x.mapError f).ending = .ofExcept r) :
    ∃ r', x.ending = .ofExcept r' ∧ r = r'.mapError f := by
  obtain ⟨trace, ending⟩ := x
  cases ending with
  | value a =>
    have hr : Ending.ofExcept (.ok a) = Ending.ofExcept r := h
    exact ⟨.ok a, rfl, (Ending.ofExcept_inj.mp hr).symm⟩
  | error e =>
    have hr : Ending.ofExcept (.error (f e)) = Ending.ofExcept r := h
    exact ⟨.error e, rfl, (Ending.ofExcept_inj.mp hr).symm⟩
  | cutOff => cases r <;> exact absurd h (by simp [mapError])

/-! ### Larger bounds -/

/-- `y` extends `x`: they are the same run, or `x` was cut off and `y` goes on from there. -/
def Extends (x y : Traced τ ε α) : Prop :=
  x = y ∨ x.ending = .cutOff ∧ x.trace <+: y.trace

lemma Extends.refl (x : Traced τ ε α) : Extends x x := Or.inl rfl

/-- Nothing that ended is extended. -/
lemma Extends.eq_of_ne_cutOff {x : Traced τ ε α} (h : Extends x y) (hx : x.ending ≠ .cutOff) :
    x = y :=
  h.resolve_right fun hcut => hx hcut.1

lemma Extends.trace_initial {x : Traced τ ε α} (h : Extends x y) : x.trace <+: y.trace := by
  rcases h with rfl | ⟨-, h⟩
  · exact List.prefix_rfl
  · exact h

lemma Extends.trans {x z : Traced τ ε α} (hxy : Extends x y) (hyz : Extends y z) : Extends x z := by
  rcases hxy with rfl | ⟨hcut, hinitial⟩
  · exact hyz
  · exact Or.inr ⟨hcut, hinitial.trans hyz.trace_initial⟩

lemma Extends.event {x : Traced τ ε α} (h : Extends x y) (t : τ) :
    Extends (event t x) (event t y) := by
  rcases h with rfl | ⟨hcut, hinitial⟩
  · exact .refl _
  · exact Or.inr ⟨hcut, List.cons_prefix_cons.mpr ⟨rfl, hinitial⟩⟩

/-- Continuations keep the order. -/
lemma Extends.settle {x : Traced τ ε α} (h : Extends x y) {g : Except ε α → Traced τ ε β}
    (hfg : ∀ r, Extends (f r) (g r)) : Extends (x.settle f) (y.settle g) := by
  rcases h with rfl | ⟨hcut, hinitial⟩
  · rcases x.ending_cases with hx | ⟨r, hx⟩
    · rw [settle_of_cutOff hx, settle_of_cutOff hx]
      exact .refl _
    · rw [settle_of_settled hx, settle_of_settled hx]
      rcases hfg r with heq | ⟨hcut, hinitial⟩
      · rw [heq]
        exact .refl _
      · exact Or.inr ⟨hcut, (List.prefix_append_right_inj _).mpr hinitial⟩
  · refine Or.inr ⟨by rw [settle_of_cutOff hcut], ?_⟩
    rw [settle_of_cutOff hcut]
    refine hinitial.trans ?_
    rcases y.ending_cases with hy | ⟨r, hy⟩
    · rw [settle_of_cutOff hy]
    · rw [settle_of_settled hy]
      exact List.prefix_append _ _

lemma Extends.andThen {x : Traced τ ε α} (h : Extends x y) {f g : α → Traced τ ε β}
    (hfg : ∀ a, Extends (f a) (g a)) : Extends (x.andThen f) (y.andThen g) :=
  h.settle fun
    | .ok a => hfg a
    | .error _ => .refl _

lemma Extends.mapError {x : Traced τ ε α} (h : Extends x y) (f : ε → ε) :
    Extends (x.mapError f) (y.mapError f) := by
  rcases h with rfl | ⟨hcut, hinitial⟩
  · exact .refl _
  · exact Or.inr ⟨by simp only [Traced.mapError, hcut], hinitial⟩

end Traced

end Foundations
