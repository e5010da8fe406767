import Mathlib.Data.List.Pairwise
import Mathlib.Tactic

set_option autoImplicit false

/-!
# Tables with unique indexes

The tables of a relational database, as far as single statements see them: a list of rows of which
no two have the same key in a unique index.  A row without a key in an index (a `NULL` column) is
under no constraint there.  That the indexes hold is a field, so every statement keeps them: it
gives a new table or fails.

## Main definitions

* `UniqueIndex` — an index; `Table` — the rows under a list of indexes.
* `Table.insert`, `update?` — the statements that can violate an index.

## Main results

* `Table.eq_of_clash` — a key names at most one row.
* `Table.exists_update?_iff` — when the row of a key can be updated.
-/

namespace Foundations

/-- A unique index: whether two rows have the same key in it. -/
structure UniqueIndex (Row : Type*) where
  clash : Row → Row → Bool
  symm : ∀ a b, clash a b = clash b a

/-- The index over a key that some rows do not have. -/
def UniqueIndex.on {Row κ : Type*} [DecidableEq κ] (key : Row → Option κ) : UniqueIndex Row where
  clash a b := match key a, key b with
    | some k, some k' => k = k'
    | _, _ => false
  symm a b := by
    cases key a with
    | none => cases key b <;> rfl
    | some k => cases key b with
      | none => rfl
      | some k' => exact decide_eq_decide.mpr eq_comm

/-- Two rows clash in the index over a key exactly when both have the same key. -/
lemma UniqueIndex.clash_on {Row κ : Type*} [DecidableEq κ] {key : Row → Option κ} {a b : Row} :
    (UniqueIndex.on key).clash a b = true ↔ ∃ k, key a = some k ∧ key b = some k := by
  change (match key a, key b with
    | some k, some k' => decide (k = k')
    | _, _ => false) = true ↔ _
  cases key a with
  | none => simp
  | some k => cases key b with
    | none => simp
    | some k' => simp [eq_comm]

/-- A table: rows of which no two clash in an index. -/
structure Table {Row : Type*} (indexes : List (UniqueIndex Row)) where
  rows : List Row
  unique : rows.Pairwise fun a b => ∀ i ∈ indexes, i.clash a b = false

namespace Table

variable {Row : Type*} {indexes : List (UniqueIndex Row)}

/-- The table without rows. -/
def empty : Table indexes := ⟨[], .nil⟩

/-- Whether a row clashes with a row of the table in an index. -/
def violates (t : Table indexes) (i : UniqueIndex Row) (row : Row) : Bool := t.rows.any fun r => i.clash r row

/-- The table with one more row, which clashes with no other. -/
def insert (t : Table indexes) (row : Row) (h : ∀ i ∈ indexes, t.violates i row = false) :
    Table indexes where
  rows := t.rows ++ [row]
  unique := List.pairwise_append.mpr
    ⟨t.unique, List.pairwise_singleton _ _, fun r hr _ hb i hi => by
      rw [List.mem_singleton.mp hb]
      exact Bool.eq_false_iff.mpr (List.any_eq_false.mp (h i hi) r hr)⟩

/-- The table with the selected rows replaced, or `none` when two rows clash then. -/
def update? (t : Table indexes) (p : Row → Bool) (f : Row → Row) : Option (Table indexes) :=
  if h : (t.rows.map fun r => if p r then f r else r).Pairwise
      fun a b => ∀ i ∈ indexes, i.clash a b = false then
    some ⟨t.rows.map fun r => if p r then f r else r, h⟩
  else none

variable {t t' : Table indexes}

/-! ### Keys -/

/-- Not clashing is symmetric. -/
lemma unclashed_symm {a b : Row} (h : ∀ i ∈ indexes, i.clash a b = false) :
    ∀ i ∈ indexes, i.clash b a = false :=
  fun i hi => (i.symm b a).trans (h i hi)

instance : Std.Symm fun a b : Row => ∀ i ∈ indexes, i.clash a b = false := ⟨fun _ _ => unclashed_symm⟩

instance (g : Row → Row) : Std.Symm fun a b : Row => ∀ i ∈ indexes, i.clash (g a) (g b) = false :=
  ⟨fun _ _ => unclashed_symm⟩

variable {i : UniqueIndex Row}

/-- **A key names at most one row**: rows that clash are one. -/
theorem eq_of_clash (t : Table indexes) (hi : i ∈ indexes) {a b : Row} (ha : a ∈ t.rows) (hb : b ∈ t.rows)
    (h : i.clash a b = true) : a = b := by
  by_contra hne
  have hfalse := t.unique.forall ha hb hne i hi
  rw [h] at hfalse
  cases hfalse

/-- Under an index that every row has a key in, no row is listed twice. -/
lemma nodup (t : Table indexes) (hi : i ∈ indexes) (htotal : ∀ a, i.clash a a = true) : t.rows.Nodup := by
  refine t.unique.imp fun {a b} h hab => ?_
  have hfalse := h i hi
  rw [← hab, htotal a] at hfalse
  cases hfalse

variable {p : Row → Bool} {row : Row} {f : Row → Row}

/-- The first row with a property that at most one row has is the row with it. -/
lemma find?_eq_some (hp : ∀ a ∈ t.rows, ∀ b ∈ t.rows, p a = true → p b = true → a = b) :
    t.rows.find? p = some row ↔ row ∈ t.rows ∧ p row = true := by
  constructor
  · intro h
    exact ⟨List.mem_of_find?_eq_some h, List.find?_some h⟩
  · rintro ⟨hmem, hrow⟩
    obtain ⟨found, hfound⟩ := Option.isSome_iff_exists.mp (List.find?_isSome.mpr ⟨row, hmem, hrow⟩)
    have hsame := hp found (List.mem_of_find?_eq_some hfound) row hmem (List.find?_some hfound) hrow
    exact hfound.trans (congrArg some hsame)

/-- A row clashes with one of the table. -/
lemma violates_iff : t.violates i row = true ↔ ∃ r ∈ t.rows, i.clash r row = true := by
  simp [violates]

/-- The new row is listed after an insertion, and no row is dropped. -/
@[simp] lemma mem_insert {h : ∀ i ∈ indexes, t.violates i row = false} {r : Row} :
    r ∈ (t.insert row h).rows ↔ r ∈ t.rows ∨ r = row := by
  rw [insert, List.mem_append, List.mem_singleton]

/-! ### Updates -/

/-- The rows after an update. -/
lemma rows_update? (h : t.update? p f = some t') :
    t'.rows = t.rows.map fun r => if p r then f r else r := by
  unfold update? at h
  split_ifs at h
  cases h
  rfl

/-- The rows after an update are the old ones, the selected replaced. -/
lemma mem_update? (h : t.update? p f = some t') {r : Row} :
    r ∈ t'.rows ↔ ∃ r₀ ∈ t.rows, (p r₀ = true ∧ r = f r₀) ∨ (p r₀ = false ∧ r = r₀) := by
  rw [rows_update? h, List.mem_map]
  refine exists_congr fun r₀ => and_congr_right fun _ => ?_
  cases p r₀ <;> simp [eq_comm]

/-- **The row of a key can be updated** exactly when what it becomes clashes with no other row. -/
theorem exists_update?_iff (hi : i ∈ indexes)
    (hp : ∀ a ∈ t.rows, ∀ b ∈ t.rows, p a = true → p b = true → i.clash a b = true) :
    (∃ t', t.update? p f = some t') ↔
      ∀ a ∈ t.rows, p a = true → ∀ b ∈ t.rows, p b = false → ∀ j ∈ indexes,
        j.clash (f a) b = false := by
  unfold update?
  constructor
  · rintro ⟨t', h⟩ a ha hpa b hb hpb
    split_ifs at h with hpairwise
    have hne : a ≠ b := by
      rintro rfl
      rw [hpa] at hpb
      cases hpb
    have hall := (List.pairwise_map.mp hpairwise).forall ha hb hne
    simpa [hpa, hpb] using hall
  · intro h
    have hpairwise : (t.rows.map fun r => if p r then f r else r).Pairwise
        fun a b => ∀ i ∈ indexes, i.clash a b = false := by
      rw [List.pairwise_map]
      refine t.unique.imp_of_mem fun {a b} ha hb hab => ?_
      cases hpa : p a with
      | false => cases hpb : p b with
        | false => simpa using hab
        | true => simpa using unclashed_symm (h b hb hpb a ha hpa)
      | true => cases hpb : p b with
        | false => simpa using h a ha hpa b hb hpb
        | true =>
          have hclash := hp a ha b hb hpa hpb
          rw [hab i hi] at hclash
          cases hclash
    exact ⟨_, dif_pos hpairwise⟩

end Table

end Foundations
