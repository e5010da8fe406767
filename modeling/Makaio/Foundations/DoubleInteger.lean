import Mathlib.Tactic

set_option autoImplicit false

/-!
# Integers in double precision

Where every number is of double precision, an integer is one whose mantissa has at most 53 bits, and
adding one is exact only up to `2 ^ 53`.  From there to `2 ^ 54` the doubles are the even numbers, and a sum
halfway between two of them goes to the multiple of four; beyond, the one is lost.

## Main definitions

* `IsDouble` — the integers of double precision.
* `addOne` — one added to such an integer, rounded to nearest, ties to even.

## Main results

* `le_addOne`, `addOne_eq` — the three values the sum can have.
* `le_of_lt_addOne` — no integer of double precision lies between a number and the sum.
-/

namespace Foundations

/-- The integers of double precision. -/
def IsDouble (n : ℤ) : Prop := ∃ (mantissa : ℤ) (exponent : ℕ), mantissa.natAbs ≤ 2 ^ 53 ∧
  n = mantissa * 2 ^ exponent

/-- One added to an integer of double precision. -/
def addOne (n : ℤ) : ℤ :=
  if -2 ^ 53 ≤ n ∧ n < 2 ^ 53 then n + 1
  else if n.natAbs < 2 ^ 54 ∧ n % 4 = 2 then n + 2
  else n

variable {m n : ℤ}

lemma addOne_eq (n : ℤ) : addOne n = n + 1 ∨ addOne n = n + 2 ∨ addOne n = n := by
  unfold addOne
  split_ifs <;> simp

/-- Adding one never goes down. -/
lemma le_addOne (n : ℤ) : n ≤ addOne n := by
  rcases addOne_eq n with h | h | h <;> omega

/-- From `2 ^ 53` on the doubles are even. -/
lemma IsDouble.natAbs_le_or_even (h : IsDouble n) : n.natAbs ≤ 2 ^ 53 ∨ n % 2 = 0 := by
  obtain ⟨mantissa, exponent, hle, rfl⟩ := h
  cases exponent with
  | zero => exact Or.inl (by simpa using hle)
  | succ exponent => exact Or.inr (Int.emod_eq_zero_of_dvd ⟨mantissa * 2 ^ exponent, by ring⟩)

/-- **No integer of double precision lies between a number and the sum.** -/
lemma le_of_lt_addOne (hm : IsDouble m) (h : m < addOne n) : m ≤ n := by
  have heven := hm.natAbs_le_or_even
  unfold addOne at h
  split_ifs at h <;> omega

lemma isDouble_of_natAbs_le (h : n.natAbs ≤ 2 ^ 53) : IsDouble n := ⟨n, 0, h, by simp⟩

end Foundations
