import Makaio.Foundations.OrderedMap
import Makaio.Foundations.PriorityOrder
import Makaio.Bus.Subject

set_option autoImplicit false

/-!
# Handler maps

The two handler maps of a bus context (`methods/on.ts`, `utils/insert-sorted.ts`): under each
subject key an array of handler entries, highest priority first and first come first served
within a priority.  Entries are inserted by binary search and removed by handler identity.

## Main definitions

* `insertSorted` — the binary-search insertion.
* `addToHandlerMap`, `removeFromHandlerMap` — the two updates of a map.
* `mergeSortedHandlerArrays`, `getMatchingHandlerEntries` — the handlers of
  a concrete subject, over all patterns it matches.

## Main results

* `insertSorted_eq_insertDesc` — on an ordered array the search finds the place after
  every entry of at least the same priority.
* `get?_addToHandlerMap`, `get?_removeFromHandlerMap` — what the updates do
  to each key.
* `mem_getMatchingHandlerEntries` — the handlers found are those of the matching keys.
-/

namespace Makaio.Bus

open Foundations

/-- Handler entry with priority for middleware-style ordering. -/
structure HandlerEntry (H : Type) where
  /-- The handler function. -/
  handler : H
  /-- Higher values run earlier. -/
  priority : ℤ
  deriving DecidableEq

/-- Handler entries by subject key. -/
abbrev HandlerMap (H : Type) := OrderedMap Key (List (HandlerEntry H))

/-! ### Sorted insertion -/

section Insertion

variable {H : Type}

/-- The `while` loop of `insertSorted`, with `steps` bounding the number of iterations. -/
def insertionPoint (entries : List (HandlerEntry H)) (priority : ℤ) : (steps : ℕ) → ℕ → ℕ → ℕ
  | 0, low, _ => low
  | steps + 1, low, high =>
    if low < high then
      let mid := (low + high) / 2
      match entries[mid]? with
      | none => low
      | some e =>
        if e.priority ≥ priority then insertionPoint entries priority steps (mid + 1) high
        else insertionPoint entries priority steps low mid
    else low

/-- Insert an entry into a sorted array by priority (highest first). -/
def insertSorted (entries : List (HandlerEntry H)) (entry : HandlerEntry H) :
    List (HandlerEntry H) :=
  let low := insertionPoint entries entry.priority entries.length 0 entries.length
  entries.take low ++ entry :: entries.drop low

variable {entries : List (HandlerEntry H)}

/-- The binary search stays inside the array and separates it: what stands before the point found
has at least the priority searched for, what stands behind it has less.

**Proof sketch.** Induction on the bound on the iterations, with the loop invariant that everything
before `low` has at least the priority and everything from `high` on has less.  Either branch
moves one end past `mid` and keeps the invariant because the array is ordered. -/
lemma insertionPoint_spec (priority : ℤ) (hsorted : Descending HandlerEntry.priority entries) :
    ∀ (steps low high : ℕ), high ≤ low + steps → high ≤ entries.length → low ≤ high →
      (∀ e ∈ entries.take low, priority ≤ e.priority) →
      (∀ e ∈ entries.drop high, e.priority < priority) →
      (∀ e ∈ entries.take (insertionPoint entries priority steps low high),
          priority ≤ e.priority) ∧
        ∀ e ∈ entries.drop (insertionPoint entries priority steps low high),
          e.priority < priority := by
  intro steps
  induction steps with
  | zero =>
    intro low high hsteps hlen hle hlow hhigh
    obtain rfl : low = high := by omega
    exact ⟨hlow, hhigh⟩
  | succ steps ih =>
    intro low high hsteps hlen hle hlow hhigh
    rw [insertionPoint]
    by_cases hlt : low < high
    · have hmid : (low + high) / 2 < entries.length := by omega
      simp only [if_pos hlt, List.getElem?_eq_getElem hmid]
      have hpair := List.pairwise_iff_getElem.mp hsorted
      by_cases hge : entries[(low + high) / 2].priority ≥ priority
      · rw [if_pos hge]
        refine ih _ _ (by omega) hlen (by omega) (fun e he => ?_) hhigh
        obtain ⟨j, hj, rfl⟩ := List.mem_take_iff_getElem.mp he
        rcases Nat.lt_or_ge j ((low + high) / 2) with h | h
        · exact le_trans hge (hpair j _ (by omega) hmid h)
        · obtain rfl : j = (low + high) / 2 := by omega
          exact hge
      · rw [if_neg hge]
        refine ih _ _ (by omega) (by omega) (by omega) hlow (fun e he => ?_)
        obtain ⟨j, hj, rfl⟩ := List.mem_drop_iff_getElem.mp he
        rcases Nat.eq_zero_or_pos j with rfl | h
        · simpa using hge
        · exact lt_of_le_of_lt (hpair _ _ hmid (by omega) (by omega)) (not_le.mp hge)
    · rw [if_neg hlt]
      obtain rfl : low = high := by omega
      exact ⟨hlow, hhigh⟩

/-- On an ordered array, `insertSorted` puts the entry after every entry of at least its
priority. -/
theorem insertSorted_eq_insertDesc (entry : HandlerEntry H)
    (hsorted : Descending HandlerEntry.priority entries) :
    insertSorted entries entry = insertDesc HandlerEntry.priority entry entries := by
  have hpoint := insertionPoint_spec entry.priority hsorted entries.length 0
    entries.length (by omega) le_rfl (by omega) (by simp) (by simp)
  exact take_append_cons_drop_eq_insertDesc hpoint.1 hpoint.2

/-- Insertion adds the entry and nothing else. -/
theorem mem_insertSorted {entry e : HandlerEntry H} :
    e ∈ insertSorted entries entry ↔ e = entry ∨ e ∈ entries := by
  unfold insertSorted
  generalize insertionPoint entries entry.priority entries.length 0 entries.length = low
  conv_rhs => rw [← List.take_append_drop low entries]
  simp only [List.mem_append, List.mem_cons]
  tauto

end Insertion

/-! ### Updates of a map -/

section Updates

variable {H : Type} [DecidableEq H]
variable (map : HandlerMap H)

/-- Add a handler to a handler map with priority-based ordering. -/
def addToHandlerMap (fullSubjectKey : Key) (handler : H) (priority : ℤ) :
    HandlerMap H :=
  let map := if map.has fullSubjectKey then map else map.set fullSubjectKey []
  let entries := (map.get? fullSubjectKey).getD []
  map.set fullSubjectKey (insertSorted entries ⟨handler, priority⟩)

/-- Remove a handler from a handler map and clean up empty entries. -/
def removeFromHandlerMap (map : HandlerMap H) (fullSubjectKey : Key) (handler : H) :
    HandlerMap H :=
  match map.get? fullSubjectKey with
  | none => map
  | some entries =>
    -- `splice` at the first entry whose handler is identical
    let entries := entries.eraseP fun entry => entry.handler = handler
    if entries.length = 0 then map.delete fullSubjectKey else map.set fullSubjectKey entries

omit [DecidableEq H] in
/-- What a key holds after adding a handler. -/
theorem get?_addToHandlerMap (key key' : Key) (handler : H) (priority : ℤ) :
    (addToHandlerMap map key handler priority).get? key' =
      if key' = key then some (insertSorted ((map.get? key).getD []) ⟨handler, priority⟩)
      else map.get? key' := by
  unfold addToHandlerMap
  by_cases hhas : map.has key = true
  · simp only [if_pos hhas, OrderedMap.get?_set]
  · have hnone : map.get? key = none := by
      rw [Option.eq_none_iff_forall_ne_some]
      exact fun v hv => hhas (OrderedMap.has_iff.mpr ⟨v, hv⟩)
    simp only [if_neg hhas, OrderedMap.get?_set, if_true, Option.getD_some, hnone,
      Option.getD_none]
    by_cases hk : key' = key <;> simp [hk]

/-- What a key holds after removing a handler. -/
theorem get?_removeFromHandlerMap (key key' : Key) (handler : H) :
    (removeFromHandlerMap map key handler).get? key' =
      if key' = key then
        (map.get? key).bind fun entries =>
          let entries := entries.eraseP fun entry => entry.handler = handler
          if entries.length = 0 then none else some entries
      else map.get? key' := by
  unfold removeFromHandlerMap
  cases hget : map.get? key with
  | none => by_cases hk : key' = key <;> simp [hk, hget]
  | some entries =>
    simp only [Option.bind_some]
    by_cases hlen : (entries.eraseP fun entry => entry.handler = handler).length = 0
    · rw [if_pos hlen, if_pos hlen, OrderedMap.get?_delete]
    · rw [if_neg hlen, if_neg hlen, OrderedMap.get?_set]

end Updates

/-! ### The handlers of a concrete subject -/

section Matching

variable {H : Type}

/-- Merge multiple sorted handler entry arrays into a single sorted array of entries. -/
def mergeSortedHandlerArrays (arrays : List (List (HandlerEntry H))) : List (HandlerEntry H) :=
  match arrays with
  | [] => []
  | [array] => array
  | arrays => sortDesc HandlerEntry.priority arrays.flatten

/-- Get all handler entries that match the given full subject key. -/
def getMatchingHandlerEntries (requestHandlers : HandlerMap H) (fullSubjectKey : Key) :
    List (HandlerEntry H) :=
  mergeSortedHandlerArrays ((requestHandlers.entries.filter fun e =>
    matchesSubscription fullSubjectKey e.1).map Prod.snd)

/-- Merging neither loses nor invents entries. -/
theorem mem_mergeSortedHandlerArrays {arrays : List (List (HandlerEntry H))}
    {e : HandlerEntry H} :
    e ∈ mergeSortedHandlerArrays arrays ↔ ∃ array ∈ arrays, e ∈ array := by
  unfold mergeSortedHandlerArrays
  split
  · simp
  · simp
  · rw [mem_sortDesc, List.mem_flatten]

/-- The handlers found for a subject are those stored under the keys it matches. -/
theorem mem_getMatchingHandlerEntries {map : HandlerMap H} {subject : Key}
    {e : HandlerEntry H} :
    e ∈ getMatchingHandlerEntries map subject ↔
      ∃ pattern entries, map.get? pattern = some entries ∧
        matchesSubscription subject pattern = true ∧ e ∈ entries := by
  rw [getMatchingHandlerEntries, mem_mergeSortedHandlerArrays]
  constructor
  · rintro ⟨array, harray, he⟩
    obtain ⟨⟨pattern, entries⟩, hp, rfl⟩ := List.mem_map.mp harray
    obtain ⟨hmem, hmatch⟩ := List.mem_filter.mp hp
    exact ⟨pattern, entries, OrderedMap.mem_entries_iff.mp hmem, hmatch, he⟩
  · rintro ⟨pattern, entries, hget, hmatch, he⟩
    exact ⟨entries, List.mem_map.mpr ⟨(pattern, entries),
      List.mem_filter.mpr ⟨OrderedMap.mem_entries_iff.mpr hget, hmatch⟩, rfl⟩, he⟩

/-- Adding a handler takes no other one away. -/
lemma mem_getMatchingHandlerEntries_add {map : HandlerMap H} {subject : Key} {e : HandlerEntry H}
    (he : e ∈ getMatchingHandlerEntries map subject) (key : Key) (handler : H) (priority : ℤ) :
    e ∈ getMatchingHandlerEntries (addToHandlerMap map key handler priority) subject := by
  obtain ⟨pattern, entries, hget, hmatch, hin⟩ := mem_getMatchingHandlerEntries.mp he
  rw [mem_getMatchingHandlerEntries]
  by_cases hpattern : pattern = key
  · subst hpattern
    refine ⟨pattern, insertSorted entries ⟨handler, priority⟩, ?_, hmatch,
      mem_insertSorted.mpr (Or.inr hin)⟩
    rw [get?_addToHandlerMap, if_pos rfl, hget, Option.getD_some]
  · refine ⟨pattern, entries, ?_, hmatch, hin⟩
    rw [get?_addToHandlerMap, if_neg hpattern, hget]

/-- Merging ordered arrays gives an ordered array. -/
theorem descending_mergeSortedHandlerArrays {arrays : List (List (HandlerEntry H))}
    (h : ∀ array ∈ arrays, Descending HandlerEntry.priority array) :
    Descending HandlerEntry.priority (mergeSortedHandlerArrays arrays) := by
  unfold mergeSortedHandlerArrays
  split
  · exact List.Pairwise.nil
  · exact h _ (by simp)
  · exact descending_sortDesc _

end Matching

end Makaio.Bus
