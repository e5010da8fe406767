import Mathlib.Algebra.BigOperators.Group.List.Basic
import Mathlib.Tactic

set_option autoImplicit false

/-!
# Counting in lists

How many elements of a list satisfy a predicate, and sums of such counts, when one element of the
list is replaced, dropped, or the first one that satisfies the predicate is erased; and the positions of
a list that grows at its end.

## Main results

* `sum_map_set`, `sum_map_eraseIdx` — a sum after one element is replaced or
  dropped.
* `countP_eraseP` — erasing the first element that satisfies the predicate.
* `sum_map_le_one_of_nodup` — a sum over distinct keys of which only one counts.
* `getElem?_concat`, `getElem?_concat_eq_some` — what stands where after one more element.
-/

namespace Foundations

variable {α K V : Type*}

/-- What stands where in a list with one more element. -/
lemma getElem?_concat (l : List α) (a : α) (n : ℕ) :
    (l ++ [a])[n]? = if n = l.length then some a else l[n]? := by
  rcases lt_trichotomy n l.length with hlt | rfl | hgt
  · rw [List.getElem?_append_left hlt, if_neg hlt.ne]
  · rw [List.getElem?_concat_length, if_pos rfl]
  · rw [if_neg hgt.ne', List.getElem?_eq_none (by simpa using hgt), List.getElem?_eq_none hgt.le]

/-- An element of a list with one more was there before, or is the new one. -/
lemma getElem?_concat_eq_some {l : List α} {a b : α} {n : ℕ} :
    (l ++ [a])[n]? = some b ↔ l[n]? = some b ∨ n = l.length ∧ a = b := by
  rw [getElem?_concat]
  split_ifs with hn
  · simp [hn]
  · simp [hn]

/-- A sum after one element of the list is replaced. -/
theorem sum_map_set (f : α → ℕ) {a b : α} :
    ∀ {l : List α} {i : ℕ}, l[i]? = some a → ((l.set i b).map f).sum + f a = (l.map f).sum + f b
  | [], i, h => nomatch h
  | c :: l, 0, h => by
    obtain rfl : c = a := by simpa using h
    simp only [List.set_cons_zero, List.map_cons, List.sum_cons]
    omega
  | c :: l, i + 1, h => by
    have ih := sum_map_set f (b := b) (l := l) (i := i) (by simpa using h)
    simp only [List.set_cons_succ, List.map_cons, List.sum_cons]
    omega

/-- A sum after one element of the list is dropped. -/
theorem sum_map_eraseIdx (f : α → ℕ) {a : α} :
    ∀ {l : List α} {i : ℕ}, l[i]? = some a → ((l.eraseIdx i).map f).sum + f a = (l.map f).sum
  | [], i, h => nomatch h
  | c :: l, 0, h => by
    obtain rfl : c = a := by simpa using h
    simp only [List.eraseIdx_cons_zero, List.map_cons, List.sum_cons]
    omega
  | c :: l, i + 1, h => by
    have ih := sum_map_eraseIdx f (l := l) (i := i) (by simpa using h)
    simp only [List.eraseIdx_cons_succ, List.map_cons, List.sum_cons]
    omega

/-- A count after one element of the list is dropped. -/
theorem countP_eraseIdx {p : α → Bool} {a : α} :
    ∀ {l : List α} {i : ℕ}, l[i]? = some a →
      (l.eraseIdx i).countP p + (if p a then 1 else 0) = l.countP p
  | [], i, h => nomatch h
  | c :: l, 0, h => by
    obtain rfl : c = a := by simpa using h
    rw [List.eraseIdx_cons_zero, List.countP_cons]
  | c :: l, i + 1, h => by
    have ih := countP_eraseIdx (p := p) (l := l) (i := i) (by simpa using h)
    rw [List.eraseIdx_cons_succ, List.countP_cons, List.countP_cons, ← ih]
    omega

/-- Erasing the first element that satisfies the predicate takes one off the count. -/
theorem countP_eraseP (p : α → Bool) (l : List α) : (l.eraseP p).countP p = l.countP p - 1 := by
  induction l with
  | nil => rfl
  | cons a l ih =>
    by_cases ha : p a
    · rw [List.eraseP_cons_of_pos ha, List.countP_cons_of_pos ha, Nat.add_sub_cancel]
    · rw [List.eraseP_cons_of_neg ha, List.countP_cons_of_neg ha, List.countP_cons_of_neg ha, ih]

/-- Erasing the first element that satisfies one predicate keeps the count of a disjoint one. -/
theorem countP_eraseP_of_disjoint {p q : α → Bool} (hpq : ∀ a, p a → ¬ q a) (l : List α) :
    (l.eraseP p).countP q = l.countP q := by
  induction l with
  | nil => rfl
  | cons a l ih =>
    by_cases ha : p a
    · rw [List.eraseP_cons_of_pos ha, List.countP_cons_of_neg (hpq a ha)]
    · rw [List.eraseP_cons_of_neg ha, List.countP_cons, List.countP_cons, ih]

/-- A sum over distinct keys is at most one if only one key counts, and that one at most once. -/
theorem sum_map_le_one_of_nodup {f : V → ℕ} {k : K} {l : List (K × V)}
    (hnodup : (l.map Prod.fst).Nodup)
    (hle : ∀ e ∈ l, f e.2 ≤ 1) (hother : ∀ e ∈ l, e.1 ≠ k → f e.2 = 0) :
    (l.map fun e => f e.2).sum ≤ 1 := by
  induction l with
  | nil => simp
  | cons e l ih =>
    obtain ⟨he, hnodup⟩ := List.nodup_cons.mp hnodup
    rw [List.map_cons, List.sum_cons]
    by_cases hek : e.1 = k
    · -- the other keys are different ones
      have hzero : (l.map fun e => f e.2).sum = 0 := by
        refine List.sum_eq_zero fun x hx => ?_
        obtain ⟨e', he', rfl⟩ := List.mem_map.mp hx
        refine hother e' (List.mem_cons_of_mem _ he') fun hk => he ?_
        exact List.mem_map.mpr ⟨e', he', hk.trans hek.symm⟩
      have := hle e (List.mem_cons_self ..)
      omega
    · have hzero := hother e (List.mem_cons_self ..) hek
      have := ih hnodup (fun e he => hle e (List.mem_cons_of_mem _ he))
        fun e he => hother e (List.mem_cons_of_mem _ he)
      omega

end Foundations
