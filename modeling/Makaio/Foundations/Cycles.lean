import Mathlib.Data.List.Chain
import Mathlib.Data.List.Duplicate
import Mathlib.Data.Set.Finite.Basic
import Mathlib.Logic.Relation
import Mathlib.Tactic

set_option autoImplicit false

/-!
# Cycles and long walks

A walk through a finite set that is long enough reaches a cycle, and a point that reaches a cycle
starts walks of every length.

## Main definitions

* `ReachesCycle` — some point reached leads back to itself.

## Main results

* `ReachesCycle.exists_step` — it can always go on.
* `exists_length_reachesCycle` — the pigeonhole principle.
-/

namespace Foundations

open Relation

variable {σ : Type*} {R : σ → σ → Prop}

/-- A point from which some point is reached that leads back to itself. -/
def ReachesCycle (R : σ → σ → Prop) (s : σ) : Prop := ∃ t, ReflTransGen R s t ∧ TransGen R t t

/-- From a point that reaches a cycle, a step leads to another such point. -/
theorem ReachesCycle.exists_step {s : σ} (h : ReachesCycle R s) :
    ∃ s', R s s' ∧ ReachesCycle R s' := by
  obtain ⟨t, hst, htt⟩ := h
  rcases ReflTransGen.cases_head hst with rfl | ⟨s', hs, hs't⟩
  · obtain ⟨s', hs, hs't⟩ := TransGen.head'_iff.mp htt
    exact ⟨s', hs, s, hs't, htt⟩
  · exact ⟨s', hs, t, hs't, htt⟩

/-- **Walks through a finite set that are long enough reach a cycle.**

**Proof sketch.** A walk longer than the set has elements visits some point twice. -/
theorem exists_length_reachesCycle {S : Set σ} (hS : S.Finite) :
    ∃ n, ∀ (s : σ) (l : List σ), l.length = n → (s :: l).IsChain R → (∀ x ∈ l, x ∈ S) →
      ReachesCycle R s := by
  classical
  refine ⟨hS.toFinset.card + 1, fun s l hlen hchain hmem => ?_⟩
  have hnodup : ¬ l.Nodup := by
    intro hnodup
    have hsub : l.toFinset ⊆ hS.toFinset := by
      intro x hx
      exact hS.mem_toFinset.mpr (hmem x (List.mem_toFinset.mp hx))
    have hcard := Finset.card_le_card hsub
    rw [List.toFinset_card_of_nodup hnodup] at hcard
    omega
  obtain ⟨x, hx⟩ := List.exists_duplicate_iff_not_nodup.mpr hnodup
  have hpair : (s :: l).Pairwise (TransGen R) :=
    (hchain.imp fun _ _ hab => TransGen.single hab).pairwise
  obtain ⟨hs, hl⟩ := List.pairwise_cons.mp hpair
  have hxx : [x, x].Pairwise (TransGen R) := hl.sublist (List.duplicate_iff_sublist.mp hx)
  exact ⟨x, (hs x hx.mem).to_reflTransGen, by simpa using hxx⟩

end Foundations
