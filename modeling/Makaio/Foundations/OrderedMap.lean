import Mathlib.Data.List.Sort
import Mathlib.Tactic

set_option autoImplicit false

/-!
# Finite maps with insertion order

The keyed collection of JavaScript (`Map`): entries are kept in the order in which their keys
were first inserted, `set` on a present key replaces its value in place, and `delete` drops the
entry.  Distinctness of the keys is a field, so that iteration visits every key once.

## Main definitions

* `OrderedMap` — the map; `get?`, `has`, `set`, `delete`, `keys` — its operations.

## Main results

* `OrderedMap.mem_entries_iff` — iteration sees exactly what `get?` sees.
* `get?_set`, `get?_delete`, `mem_keys_set`, `mem_keys_delete` — lookup and keys after an update.
* `set_eq_self`, `set_set`, `delete_set` — updates that undo one another; `foldl_set_entries`.
* `get?_foldl_delete`, `get?_foldl_set` — lookup after many updates; `get?_foldl_delete_filter`,
  `get?_foldl_set_filter`, `get?_foldl_delete_values`, `get?_foldl_set_values` — of selected entries.
-/

namespace Foundations

/-- A finite map with insertion order. -/
structure OrderedMap (K V : Type*) where
  /-- The entries, oldest key first. -/
  entries : List (K × V)
  /-- No key occurs twice. -/
  nodup : (entries.map Prod.fst).Nodup

namespace OrderedMap

variable {K V : Type*}

instance [DecidableEq K] [DecidableEq V] : DecidableEq (OrderedMap K V) := fun a b =>
  match a, b with
  | ⟨l, _⟩, ⟨l', _⟩ => decidable_of_iff (l = l') (by simp)

/-- The map without entries. -/
def empty : OrderedMap K V := ⟨[], by simp⟩

/-- The keys, oldest first. -/
def keys (m : OrderedMap K V) : List K := m.entries.map Prod.fst

/-- The values, oldest key first. -/
def values (m : OrderedMap K V) : List V := m.entries.map Prod.snd

/-- Two maps with the same entries are equal. -/
lemma eq_of_entries {m m' : OrderedMap K V} (h : m.entries = m'.entries) : m = m' := by
  cases m
  cases m'
  simpa using h

variable [DecidableEq K]

/-- The value stored under `k`. -/
def get? (m : OrderedMap K V) (k : K) : Option V :=
  (m.entries.find? fun e => e.1 = k).map Prod.snd

/-- Whether `k` is a key. -/
def has (m : OrderedMap K V) (k : K) : Bool := m.entries.any fun e => e.1 = k

/-- Store `v` under `k`: in place if `k` is present, as the newest entry otherwise. -/
def set (m : OrderedMap K V) (k : K) (v : V) : OrderedMap K V :=
  if h : m.has k then
    ⟨m.entries.map fun e => if e.1 = k then (k, v) else e, by
      have hfst : (m.entries.map fun e => if e.1 = k then (k, v) else e).map Prod.fst =
          m.entries.map Prod.fst := by
        rw [List.map_map]
        refine List.map_congr_left fun e _ => ?_
        by_cases he : e.1 = k <;> simp [he]
      rw [hfst]
      exact m.nodup⟩
  else
    ⟨m.entries ++ [(k, v)], by
      have hk : ∀ e ∈ m.entries, e.1 ≠ k := fun e he hek =>
        h (List.any_eq_true.mpr ⟨e, he, by simpa using hek⟩)
      rw [List.map_append, List.nodup_append]
      refine ⟨m.nodup, by simp, ?_⟩
      intro a ha b hb
      obtain ⟨e, he, rfl⟩ := List.mem_map.mp ha
      simp only [List.map_cons, List.map_nil, List.mem_singleton] at hb
      exact hb ▸ hk e he⟩

/-- Drop the entry of `k`. -/
def delete (m : OrderedMap K V) (k : K) : OrderedMap K V :=
  ⟨m.entries.filter fun e => e.1 ≠ k,
    m.nodup.sublist (List.filter_sublist.map Prod.fst)⟩

/-! ### Lookup against iteration -/

variable {k : K} {m : OrderedMap K V}
variable {v : V} {k' : K}

/-- Lookup in a list of entries with distinct keys finds exactly the listed pairs. -/
private lemma find?_eq_some_iff_mem {l : List (K × V)} (hl : (l.map Prod.fst).Nodup) :
    (l.find? fun e => e.1 = k).map Prod.snd = some v ↔ (k, v) ∈ l := by
  induction l with
  | nil => simp
  | cons e l ih =>
    rw [List.map_cons, List.nodup_cons] at hl
    by_cases he : e.1 = k
    · have hnot : (k, v) ∉ l := fun hmem =>
        hl.1 (List.mem_map.mpr ⟨(k, v), hmem, he.symm⟩)
      rw [List.find?_cons_of_pos (by simpa using he)]
      simp only [Option.map_some, Option.some.injEq, List.mem_cons, hnot, or_false]
      constructor
      · rintro rfl; exact Prod.ext he.symm rfl
      · intro h; rw [← h]
    · have hne : (k, v) ≠ e := fun h => he (by rw [← h])
      rw [List.find?_cons_of_neg (by simpa using he), ih hl.2]
      simp [hne]

/-- Iteration sees exactly what lookup sees. -/
theorem mem_entries_iff : (k, v) ∈ m.entries ↔ m.get? k = some v :=
  (find?_eq_some_iff_mem m.nodup).symm

/-- A key is present exactly when it has a value. -/
theorem has_iff : m.has k = true ↔ ∃ v, m.get? k = some v := by
  simp only [has, List.any_eq_true, decide_eq_true_eq]
  constructor
  · rintro ⟨e, he, rfl⟩
    exact ⟨e.2, mem_entries_iff.mp he⟩
  · rintro ⟨v, hv⟩
    exact ⟨(k, v), mem_entries_iff.mpr hv, rfl⟩

/-- A key is listed exactly when it has a value. -/
theorem mem_keys_iff : k ∈ m.keys ↔ ∃ v, m.get? k = some v := by
  simp only [keys, List.mem_map]
  constructor
  · rintro ⟨e, he, rfl⟩
    exact ⟨e.2, mem_entries_iff.mp he⟩
  · rintro ⟨v, hv⟩
    exact ⟨(k, v), mem_entries_iff.mpr hv, rfl⟩

/-- A value is listed exactly when it is stored under some key. -/
theorem mem_values_iff : v ∈ m.values ↔ ∃ k, m.get? k = some v := by
  simp only [values, List.mem_map]
  constructor
  · rintro ⟨e, he, rfl⟩
    exact ⟨e.1, mem_entries_iff.mp he⟩
  · rintro ⟨k, hk⟩
    exact ⟨(k, v), mem_entries_iff.mpr hk, rfl⟩

@[simp] theorem get?_empty (k : K) : (empty : OrderedMap K V).get? k = none := rfl

/-! ### Lookup after an update -/

/-- Two maps that list the same pairs under a key agree at that key. -/
private lemma get?_congr {m m' : OrderedMap K V} (h : ∀ v, (k, v) ∈ m.entries ↔ (k, v) ∈ m'.entries) :
    m.get? k = m'.get? k := by
  refine Option.ext fun v => ?_
  rw [← mem_entries_iff, ← mem_entries_iff, h]

@[simp] theorem get?_set_self (m : OrderedMap K V) (k : K) (v : V) :
    (m.set k v).get? k = some v := by
  rw [← mem_entries_iff, set]
  split_ifs with h
  · obtain ⟨w, hw⟩ := has_iff.mp h
    exact List.mem_map.mpr ⟨(k, w), mem_entries_iff.mpr hw, by simp⟩
  · simp

theorem get?_set_of_ne (m : OrderedMap K V) {k : K} (v : V) (hne : k' ≠ k) :
    (m.set k v).get? k' = m.get? k' := by
  refine get?_congr fun w => ?_
  rw [set]
  split_ifs with h
  · simp only [List.mem_map]
    constructor
    · rintro ⟨e, he, heq⟩
      by_cases hek : e.1 = k
      · rw [if_pos hek] at heq
        exact absurd (congrArg Prod.fst heq).symm hne
      · rw [if_neg hek] at heq
        exact heq ▸ he
    · intro he
      exact ⟨(k', w), he, if_neg hne⟩
  · simp [hne]

/-- Lookup after storing. -/
theorem get?_set (m : OrderedMap K V) (k k' : K) (v : V) :
    (m.set k v).get? k' = if k' = k then some v else m.get? k' := by
  by_cases h : k' = k
  · rw [if_pos h, h, get?_set_self]
  · rw [if_neg h, get?_set_of_ne m v h]

/-- Lookup after deleting. -/
theorem get?_delete (m : OrderedMap K V) (k k' : K) :
    (m.delete k).get? k' = if k' = k then none else m.get? k' := by
  by_cases h : k' = k
  · rw [if_pos h, Option.eq_none_iff_forall_ne_some]
    intro v hv
    rw [← mem_entries_iff, delete, List.mem_filter] at hv
    exact absurd h (by simpa using hv.2)
  · rw [if_neg h]
    refine get?_congr fun w => ?_
    simp [delete, h]

@[simp] theorem get?_delete_self (m : OrderedMap K V) (k : K) : (m.delete k).get? k = none := by
  rw [get?_delete, if_pos rfl]

theorem get?_delete_of_ne (m : OrderedMap K V) {k : K} (hne : k' ≠ k) :
    (m.delete k).get? k' = m.get? k' := by rw [get?_delete, if_neg hne]

/-! ### Updates that undo one another -/

private lemma entries_set_of_has (v : V) (h : m.has k = true) :
    (m.set k v).entries = m.entries.map fun e => if e.1 = k then (k, v) else e := by
  rw [set, dif_pos h]

private lemma entries_set_of_not_has (v : V) (h : ¬m.has k = true) :
    (m.set k v).entries = m.entries ++ [(k, v)] := by
  rw [set, dif_neg h]

private lemma not_has_of_none (h : m.get? k = none) : ¬m.has k = true := fun hhas => by
  obtain ⟨w, hw⟩ := has_iff.mp hhas
  rw [h] at hw
  cases hw

private lemma ne_of_not_has (h : ¬m.has k = true) :
    ∀ e ∈ m.entries, e.1 ≠ k := fun e he hek =>
  h (List.any_eq_true.mpr ⟨e, he, by simpa using hek⟩)

/-- Storing what is stored changes nothing. -/
theorem set_eq_self (h : m.get? k = some v) : m.set k v = m := by
  refine eq_of_entries ?_
  rw [entries_set_of_has v (has_iff.mpr ⟨v, h⟩)]
  refine (List.map_congr_left fun e he => ?_).trans (List.map_id _)
  split_ifs with hek
  · have hv : m.get? k = some e.2 := mem_entries_iff.mp (hek ▸ he)
    rw [h, Option.some.injEq] at hv
    rw [hv, ← hek, id]
  · rfl

/-- The second of two values stored under one key stays. -/
theorem set_set (m : OrderedMap K V) (k : K) (v w : V) : (m.set k v).set k w = m.set k w := by
  refine eq_of_entries ?_
  rw [entries_set_of_has w (has_iff.mpr ⟨v, get?_set_self m k v⟩)]
  by_cases h : m.has k = true
  · rw [entries_set_of_has v h, entries_set_of_has w h, List.map_map]
    refine List.map_congr_left fun e _ => ?_
    by_cases he : e.1 = k <;> simp [he]
  · rw [entries_set_of_not_has v h, entries_set_of_not_has w h, List.map_append]
    congr 1
    · refine (List.map_congr_left fun e he => ?_).trans (List.map_id _)
      rw [if_neg (ne_of_not_has h e he), id]
    · simp

/-- Dropping a key that has just been added restores the map. -/
theorem delete_set (m : OrderedMap K V) (v : V) (h : m.get? k = none) :
    (m.set k v).delete k = m := by
  have hno := not_has_of_none h
  refine eq_of_entries ?_
  rw [delete]
  dsimp only
  rw [entries_set_of_not_has v hno, List.filter_append,
    List.filter_eq_self.mpr fun e he => by simpa using ne_of_not_has hno e he]
  simp

/-- Storing the entries of a map one after the other gives the map. -/
theorem foldl_set_entries (m : OrderedMap K V) :
    m.entries.foldl (fun acc e => acc.set e.1 e.2) empty = m := by
  have hall : ∀ l : List (K × V), (l.map Prod.fst).Nodup →
      (l.foldl (fun acc e => acc.set e.1 e.2) (empty : OrderedMap K V)).entries = l := by
    intro l
    induction l using List.reverseRecOn with
    | nil => intro _; rfl
    | append_singleton l e ih =>
      intro hl
      rw [List.map_append, List.nodup_append] at hl
      have hno : ¬(l.foldl (fun acc e => acc.set e.1 e.2) (empty : OrderedMap K V)).has e.1 = true := by
        rw [has, ih hl.1, List.any_eq_true]
        rintro ⟨e', he', hkey⟩
        exact hl.2.2 e'.1 (List.mem_map.mpr ⟨e', he', rfl⟩) e.1 (by simp) (of_decide_eq_true hkey)
      rw [List.foldl_append, List.foldl_cons, List.foldl_nil, entries_set_of_not_has e.2 hno, ih hl.1]
  exact eq_of_entries (hall _ m.nodup)

/-! ### Many updates -/

/-- Lookup after dropping the keys of a list. -/
theorem get?_foldl_delete {α : Type*} (key : α → K) (l : List α) (m : OrderedMap K V) (k : K) :
    (l.foldl (fun m a => m.delete (key a)) m).get? k = if k ∈ l.map key then none else m.get? k := by
  induction l generalizing m with
  | nil => simp
  | cons a l ih =>
    rw [List.foldl_cons, ih, get?_delete, List.map_cons]
    by_cases hl : k ∈ l.map key
    · rw [if_pos hl, if_pos (List.mem_cons_of_mem _ hl)]
    · rw [if_neg hl]
      simp [List.mem_cons, hl]

/-- Lookup after storing, one by one, values that `f` gives for their keys. -/
theorem get?_foldl_set {α : Type*} (key : α → K) (value : α → V) (f : K → Option V) (l : List α)
    (hl : ∀ a ∈ l, f (key a) = some (value a)) (m : OrderedMap K V) (k : K) :
    (l.foldl (fun m a => m.set (key a) (value a)) m).get? k =
      if k ∈ l.map key then f k else m.get? k := by
  induction l generalizing m with
  | nil => simp
  | cons a l ih =>
    rw [List.foldl_cons, ih (fun b hb => hl b (List.mem_cons_of_mem _ hb)), get?_set, List.map_cons]
    by_cases hk : k ∈ l.map key
    · rw [if_pos hk, if_pos (List.mem_cons_of_mem _ hk)]
    · rw [if_neg hk]
      by_cases ha : k = key a
      · subst ha
        rw [if_pos rfl, if_pos List.mem_cons_self, hl a List.mem_cons_self]
      · rw [if_neg ha, if_neg]
        simp [List.mem_cons, ha, hk]

/-- Whether a stored entry passes a filter on the entries. -/
private lemma mem_map_filter_iff {p : K × V → Bool} (h : m.get? k = some v) :
    k ∈ (m.entries.filter p).map Prod.fst ↔ p (k, v) = true := by
  simp only [List.mem_map, List.mem_filter]
  constructor
  · rintro ⟨⟨k', w⟩, ⟨hmem, hp⟩, rfl⟩
    rw [mem_entries_iff, h] at hmem
    cases hmem
    exact hp
  · exact fun hp => ⟨(k, v), ⟨mem_entries_iff.mpr h, hp⟩, rfl⟩

/-- A key without a value passes no filter on the entries. -/
private lemma not_mem_map_filter {p : K × V → Bool} (h : m.get? k = none) :
    k ∉ (m.entries.filter p).map Prod.fst := by
  simp only [List.mem_map, List.mem_filter, not_exists, not_and, and_imp]
  rintro ⟨k', w⟩ hmem - rfl
  rw [mem_entries_iff, h] at hmem
  cases hmem

/-- Lookup after dropping the entries that a predicate selects. -/
theorem get?_foldl_delete_filter (m : OrderedMap K V) (p : K × V → Bool) (k : K) :
    ((m.entries.filter p).foldl (fun m e => m.delete e.1) m).get? k =
      (m.get? k).filter fun v => !p (k, v) := by
  rw [get?_foldl_delete]
  cases h : m.get? k with
  | none => rw [ite_self, Option.filter_none]
  | some v =>
    simp only [mem_map_filter_iff h, Option.filter_some]
    cases p (k, v) <;> rfl

/-- Lookup after changing the entries that a predicate selects. -/
theorem get?_foldl_set_filter (m : OrderedMap K V) (p : K × V → Bool) (f : V → V) (k : K) :
    ((m.entries.filter p).foldl (fun m e => m.set e.1 (f e.2)) m).get? k =
      (m.get? k).map fun v => if p (k, v) then f v else v := by
  rw [get?_foldl_set Prod.fst (fun e => f e.2) (fun k => (m.get? k).map f) _ fun e he => by
    rw [mem_entries_iff.mp (List.mem_filter.mp he).1, Option.map_some]]
  cases h : m.get? k with
  | none => rw [if_neg (not_mem_map_filter h), Option.map_none]
  | some v =>
    simp only [mem_map_filter_iff h, Option.map_some]
    split_ifs <;> rfl

section

variable {key : V → K} (hkey : ∀ k v, m.get? k = some v → key v = k) (p : V → Bool)
include hkey

/-- Values stored under their own keys are filtered as the entries are. -/
private lemma foldl_values_filter (f : OrderedMap K V → K → V → OrderedMap K V) :
    (m.values.filter p).foldl (fun m v => f m (key v) v) m =
      (m.entries.filter fun e => p e.2).foldl (fun m e => f m e.1 e.2) m := by
  rw [values, List.filter_map, List.foldl_map]
  refine List.foldl_ext _ _ _ fun m' e he => ?_
  have hmem := (List.mem_filter.mp he).1
  rw [hkey e.1 e.2 (mem_entries_iff.mp hmem)]

/-- Lookup after dropping the values that a predicate selects, where values carry their keys. -/
theorem get?_foldl_delete_values (k : K) :
    ((m.values.filter p).foldl (fun m v => m.delete (key v)) m).get? k = (m.get? k).filter fun v => !p v := by
  rw [foldl_values_filter hkey p fun m k _ => m.delete k]
  exact get?_foldl_delete_filter m _ k

/-- Lookup after changing the values that a predicate selects, where values carry their keys. -/
theorem get?_foldl_set_values (f : V → V) (k : K) :
    ((m.values.filter p).foldl (fun m v => m.set (key v) (f v)) m).get? k =
      (m.get? k).map fun v => if p v then f v else v := by
  rw [foldl_values_filter hkey p fun m k v => m.set k (f v)]
  exact get?_foldl_set_filter m _ f k

end

/-- The keys after storing. -/
theorem mem_keys_set {k : K} : k' ∈ (m.set k v).keys ↔ k' = k ∨ k' ∈ m.keys := by
  rw [mem_keys_iff, mem_keys_iff, get?_set]
  split_ifs with h <;> simp [h]

/-- The keys after deleting. -/
theorem mem_keys_delete {k : K} : k' ∈ (m.delete k).keys ↔ k' ≠ k ∧ k' ∈ m.keys := by
  rw [mem_keys_iff, mem_keys_iff, get?_delete]
  split_ifs with h <;> simp [h]

/-! ### Counting entries -/

/-- Entries are counted at most as often as those they come from: each counted entry has a counted
entry of the same key. -/
theorem countP_le {V' : Type*} {m' : OrderedMap K V'} {p : K × V → Bool} {p' : K × V' → Bool}
    (h : ∀ k v', m'.get? k = some v' → p' (k, v') = true → ∃ v, m.get? k = some v ∧ p (k, v) = true) :
    m'.entries.countP p' ≤ m.entries.countP p := by
  rw [List.countP_eq_length_filter, List.countP_eq_length_filter,
    ← List.length_map Prod.fst, ← List.length_map Prod.fst]
  refine (List.subperm_of_subset (m'.nodup.sublist (List.filter_sublist.map Prod.fst)) ?_).length_le
  intro k hk
  obtain ⟨⟨k', v'⟩, he, rfl⟩ := List.mem_map.mp hk
  obtain ⟨hmem, hp'⟩ := List.mem_filter.mp he
  obtain ⟨v, hv, hp⟩ := h k' v' (mem_entries_iff.mp hmem) hp'
  exact List.mem_map.mpr ⟨(k', v), List.mem_filter.mpr ⟨mem_entries_iff.mpr hv, hp⟩, rfl⟩

/-- A new entry is counted at most once. -/
theorem countP_set_le (v : V) (h : m.get? k = none) (p : K × V → Bool) :
    (m.set k v).entries.countP p ≤ m.entries.countP p + 1 := by
  have hno := not_has_of_none h
  rw [entries_set_of_not_has v hno, List.countP_append, List.countP_singleton]
  split_ifs <;> omega

/-! ### Values up to their order -/

/-- The pairs of a list with distinct keys are one of them and those of the other keys. -/
private lemma perm_filter {l : List (K × V)} (hl : (l.map Prod.fst).Nodup) (hmem : (k, v) ∈ l) :
    l.Perm ((k, v) :: l.filter fun e => e.1 ≠ k) := by
  induction l with
  | nil => cases hmem
  | cons e l ih =>
    rw [List.map_cons, List.nodup_cons] at hl
    rcases List.mem_cons.mp hmem with rfl | hmem
    · have hkeep : l.filter (fun e => e.1 ≠ k) = l := List.filter_eq_self.mpr fun e he => by
        simpa using fun heq => hl.1 (List.mem_map.mpr ⟨e, he, heq⟩)
      rw [List.filter_cons_of_neg (by simp), hkeep]
    · have hne : e.1 ≠ k := fun heq => hl.1 (List.mem_map.mpr ⟨(k, v), hmem, heq.symm⟩)
      rw [List.filter_cons_of_pos (by simpa using hne)]
      exact ((ih hl.2 hmem).cons e).trans (List.Perm.swap _ _ _)

/-- The values are the one of a key and those that are left when it is dropped. -/
theorem values_perm (h : m.get? k = some v) : m.values.Perm (v :: (m.delete k).values) :=
  (perm_filter m.nodup (mem_entries_iff.mpr h)).map Prod.snd

/-- A new value is the last one. -/
theorem values_set_of_none (v : V) (h : m.get? k = none) : (m.set k v).values = m.values ++ [v] := by
  rw [values, entries_set_of_not_has v (not_has_of_none h), List.map_append]
  rfl

end OrderedMap

end Foundations
