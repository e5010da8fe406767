import Mathlib.Data.List.Sort
import Mathlib.Tactic

set_option autoImplicit false

/-!
# Sorting by a key

A stable sort by a key of the elements, and when two ways to sort the same elements agree.

## Main definitions

* `sortBy` — the elements in the order of a key.

## Main results

* `sortBy_eq_sortBy` — elements with distinct keys have one order.
-/

namespace Foundations

variable {α κ : Type*} [LinearOrder κ] {key : α → κ}

/-- The elements in the order of a key; those of one key keep their order. -/
def sortBy (key : α → κ) (l : List α) : List α := l.mergeSort fun a b => key a ≤ key b

lemma sortBy_perm (key : α → κ) (l : List α) : (sortBy key l).Perm l := List.mergeSort_perm l _

variable {l l' : List α}

/-- Sorting keeps the elements. -/
@[simp] lemma mem_sortBy {a : α} : a ∈ sortBy key l ↔ a ∈ l := (sortBy_perm key l).mem_iff

/-- Sorted elements are in the order of their keys. -/
lemma pairwise_sortBy (key : α → κ) (l : List α) : (sortBy key l).Pairwise fun a b => key a ≤ key b := by
  have h : (sortBy key l).Pairwise fun a b => decide (key a ≤ key b) = true := List.pairwise_mergeSort
    (fun a b c hab hbc => decide_eq_true ((of_decide_eq_true hab).trans (of_decide_eq_true hbc)))
    (fun a b => by simpa using le_total (key a) (key b)) l
  exact h.imp fun hab => of_decide_eq_true hab

/-- Elements that are in the order of distinct keys are the sorted ones. -/
theorem eq_sortBy (hkey : ∀ a ∈ l', ∀ b ∈ l', key a = key b → a = b) (hperm : l.Perm l')
    (hsorted : l.Pairwise fun a b => key a ≤ key b) : l = sortBy key l' := by
  refine List.Perm.eq_of_pairwise (fun a b ha hb hab hba => ?_) hsorted (pairwise_sortBy key l')
    (hperm.trans (sortBy_perm key l').symm)
  exact hkey a (hperm.mem_iff.mp ha) b (mem_sortBy.mp hb) (le_antisymm hab hba)

/-- **Elements with distinct keys have one order**. -/
theorem sortBy_eq_sortBy (hkey : ∀ a ∈ l', ∀ b ∈ l', key a = key b → a = b) (hperm : l.Perm l') :
    sortBy key l = sortBy key l' :=
  eq_sortBy hkey ((sortBy_perm key l).trans hperm) (pairwise_sortBy key l)

/-- Sorting commutes with a map that keeps the keys. -/
theorem map_sortBy {β : Type*} {key' : β → κ} (f : α → β) (l : List α)
    (h : ∀ a ∈ l, key' (f a) = key a) : (sortBy key l).map f = sortBy key' (l.map f) := by
  unfold sortBy
  rw [List.map_mergeSort]
  intro a ha b hb
  rw [h a ha, h b hb]

end Foundations
