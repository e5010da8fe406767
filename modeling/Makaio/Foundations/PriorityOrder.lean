import Mathlib.Data.List.Sort
import Mathlib.Tactic

set_option autoImplicit false

/-!
# Stable order by descending rank

Lists kept in descending order of a rank, first come first served within a rank: the stable
sort, the insertion of a newest element, and what filtering and cutting at a bound do to them.

## Main definitions

* `sortDesc` — the stable sort by descending rank.
* `insertDesc` — insertion after every element of at least the same rank.
* `Descending` — the rank never increases along the list.

## Main results

* `sortDesc_append_singleton` — a newest element is inserted last of its rank.
* `sortDesc_stable` — elements of equal rank keep their order.
* `sortDesc_filter` — sorting commutes with filtering.
* `Descending.dropWhile_eq_filter` — cutting a descending list at a bound keeps
  exactly the elements below the bound.
* `Descending.eq_flatMap_filter` — a descending list is the sequence of its ranks'
  blocks.
-/

namespace Foundations

variable {α β : Type*} [LinearOrder β] (rank : α → β)

/-- The rank never increases along the list. -/
def Descending (l : List α) : Prop := l.Pairwise fun a b => rank b ≤ rank a

/-- The stable sort by descending rank. -/
def sortDesc (l : List α) : List α := l.insertionSort fun a b => rank b ≤ rank a

/-- Insert `x` after every element whose rank is at least the rank of `x`, and before the
others. -/
def insertDesc (x : α) : List α → List α
  | [] => [x]
  | a :: l => if rank x ≤ rank a then a :: insertDesc x l else x :: a :: l

instance instTotalRank : Std.Total fun a b : α => rank b ≤ rank a :=
  ⟨fun a b => le_total (rank b) (rank a)⟩

instance instTransRank : IsTrans α fun a b => rank b ≤ rank a :=
  ⟨fun _ _ _ h h' => le_trans h' h⟩

variable {rank}
variable {l : List α}
variable {a x : α} {γ : Type*}

@[simp] theorem mem_sortDesc : a ∈ sortDesc rank l ↔ a ∈ l :=
  List.mem_insertionSort _

theorem sortDesc_perm (l : List α) : (sortDesc rank l).Perm l := List.perm_insertionSort _ l

theorem descending_sortDesc (l : List α) : Descending rank (sortDesc rank l) :=
  List.pairwise_insertionSort _ l

theorem mem_insertDesc : a ∈ insertDesc rank x l ↔ a = x ∨ a ∈ l := by
  induction l with
  | nil => simp [insertDesc]
  | cons b l ih =>
    rw [insertDesc]
    split_ifs
    · rw [List.mem_cons, ih, List.mem_cons]
      tauto
    · simp

/-- Insertion of a newest element at the place `i` that separates the ranks is `insertDesc`. -/
theorem take_append_cons_drop_eq_insertDesc :
    ∀ {l : List α} {i : ℕ}, (∀ a ∈ l.take i, rank x ≤ rank a) →
      (∀ a ∈ l.drop i, rank a < rank x) → l.take i ++ x :: l.drop i = insertDesc rank x l := by
  intro l
  induction l with
  | nil => intro i _ _; simp [insertDesc]
  | cons b l ih =>
    intro i h₁ h₂
    cases i with
    | zero =>
      have hb : ¬ rank x ≤ rank b := not_le.mpr (h₂ b (by simp))
      simp [insertDesc, hb]
    | succ i =>
      have hb : rank x ≤ rank b := h₁ b (by simp)
      rw [insertDesc, if_pos hb, List.take_succ_cons, List.drop_succ_cons, List.cons_append,
        ih (fun a ha => h₁ a (by simp [ha])) (fun a ha => h₂ a (by simpa using ha))]

/-- Inserting an oldest element at the front of its rank commutes with inserting a newest
element at the back of its rank.

**Proof sketch.** Induction on the list: the head is passed over by both insertions, by one of
them, or by neither, and in the last case the ranks of the two elements decide their order the
same way on both sides. -/
private lemma orderedInsert_insertDesc (a x : α) (l : List α) :
    (insertDesc rank x l).orderedInsert (fun a b => rank b ≤ rank a) a =
      insertDesc rank x (l.orderedInsert (fun a b => rank b ≤ rank a) a) := by
  induction l with
  | nil => simp only [insertDesc, List.orderedInsert]
  | cons b l ih =>
    simp only [insertDesc, List.orderedInsert]
    by_cases hxb : rank x ≤ rank b
    · by_cases hba : rank b ≤ rank a
      · have hxa : rank x ≤ rank a := le_trans hxb hba
        simp [insertDesc, hxb, hba, hxa]
      · simp [insertDesc, hxb, hba, ih]
    · have hbx : rank b ≤ rank x := le_of_lt (not_le.mp hxb)
      by_cases hxa : rank x ≤ rank a
      · have hba : rank b ≤ rank a := le_trans hbx hxa
        simp [insertDesc, hxb, hba, hxa]
      · by_cases hba : rank b ≤ rank a
        · simp [insertDesc, hxb, hba, hxa]
        · simp [insertDesc, hxb, hba, hxa]

/-- Sorting a list to which a newest element has been appended inserts it last of its rank. -/
theorem sortDesc_append_singleton (l : List α) (x : α) :
    sortDesc rank (l ++ [x]) = insertDesc rank x (sortDesc rank l) := by
  induction l with
  | nil => rfl
  | cons a l ih =>
    have h : sortDesc rank (a :: (l ++ [x])) =
        (sortDesc rank (l ++ [x])).orderedInsert (fun a b => rank b ≤ rank a) a := rfl
    rw [List.cons_append, h, ih, orderedInsert_insertDesc]
    rfl

/-- A map that keeps ranks commutes with the insertion of a newest element. -/
theorem map_insertDesc (rank : α → β) (rank' : γ → β) (f : α → γ) (hf : ∀ a, rank' (f a) = rank a) (x : α)
    (l : List α) :
    (insertDesc rank x l).map f = insertDesc rank' (f x) (l.map f) := by
  induction l with
  | nil => rfl
  | cons a l ih =>
    rw [insertDesc, List.map_cons, insertDesc, hf, hf]
    split_ifs
    · rw [List.map_cons, ih]
    · rfl

/-- A map that keeps ranks keeps the order. -/
theorem Descending.map (hl : Descending rank l) (rank' : γ → β) (f : α → γ) (hf : ∀ a, rank' (f a) = rank a) :
    Descending rank' (l.map f) := by
  rw [Descending, List.pairwise_map]
  exact hl.imp fun {a b} hab => by rwa [hf, hf]

/-- **Stability**: elements of equal rank stay in the order of the unsorted list. -/
theorem sortDesc_stable (rank : α → β) {R : α → α → Prop} (hl : l.Pairwise R) :
    (sortDesc rank l).Pairwise fun a b => rank b < rank a ∨ rank b = rank a ∧ R a b := by
  induction l with
  | nil => exact List.Pairwise.nil
  | cons a l ih =>
    obtain ⟨ha, hl⟩ := List.pairwise_cons.mp hl
    have hsorted := ih hl
    have hR : ∀ b ∈ sortDesc rank l, R a b := fun b hb => ha b (mem_sortDesc.mp hb)
    have hstep : sortDesc rank (a :: l) =
        (sortDesc rank l).orderedInsert (fun a b => rank b ≤ rank a) a := rfl
    rw [hstep]
    clear hstep ih
    -- inserting the oldest element `a` in front of everything of at most its rank
    generalize sortDesc rank l = l' at hsorted hR
    induction l' with
    | nil => simp
    | cons b l' ih' =>
      obtain ⟨hb, hl'⟩ := List.pairwise_cons.mp hsorted
      rw [List.orderedInsert]
      by_cases hba : rank b ≤ rank a
      · rw [if_pos hba, List.pairwise_cons]
        refine ⟨fun c hc => ?_, hsorted⟩
        have hca : rank c ≤ rank a := by
          rcases List.mem_cons.mp hc with rfl | hc
          · exact hba
          · rcases hb c hc with h | h
            · exact le_trans (le_of_lt h) hba
            · exact le_trans (le_of_eq h.1) hba
        rcases lt_or_eq_of_le hca with h | h
        · exact Or.inl h
        · exact Or.inr ⟨h, hR c hc⟩
      · rw [if_neg hba, List.pairwise_cons]
        refine ⟨fun c hc => ?_, ih' hl' fun c hc => hR c (List.mem_cons_of_mem _ hc)⟩
        rcases (List.mem_orderedInsert _).mp hc with rfl | hc
        · exact Or.inl (not_le.mp hba)
        · exact hb c hc

/-- Filtering after inserting the oldest element of a rank into a descending list. -/
private lemma filter_orderedInsert {p : α → Bool} (hl : Descending rank l) :
    (l.orderedInsert (fun a b => rank b ≤ rank a) a).filter p =
      if p a then (l.filter p).orderedInsert (fun a b => rank b ≤ rank a) a
      else l.filter p := by
  induction l with
  | nil => by_cases ha : p a <;> simp [ha]
  | cons b l ih =>
    obtain ⟨hb, hl⟩ := List.pairwise_cons.mp hl
    rw [List.orderedInsert]
    by_cases hba : rank b ≤ rank a
    · rw [if_pos hba]
      by_cases ha : p a
      · -- every surviving element of the tail is at most `a`, so `a` stays in front
        have hle : ∀ c ∈ (b :: l).filter p, rank c ≤ rank a := by
          intro c hc
          rcases List.mem_cons.mp (List.mem_of_mem_filter hc) with rfl | hcl
          · exact hba
          · exact le_trans (hb c hcl) hba
        rw [if_pos ha, List.filter_cons_of_pos ha]
        cases hf : (b :: l).filter p with
        | nil => simp
        | cons c l' => rw [List.orderedInsert, if_pos (hle c (by simp [hf]))]
      · rw [if_neg ha, List.filter_cons_of_neg ha]
    · rw [if_neg hba]
      by_cases hpb : p b
      · rw [List.filter_cons_of_pos hpb, ih hl, List.filter_cons_of_pos hpb]
        by_cases ha : p a
        · simp [ha, List.orderedInsert, hba]
        · simp [ha]
      · rw [List.filter_cons_of_neg hpb, ih hl, List.filter_cons_of_neg hpb]

/-- Sorting commutes with filtering. -/
theorem sortDesc_filter (p : α → Bool) (l : List α) :
    sortDesc rank (l.filter p) = (sortDesc rank l).filter p := by
  induction l with
  | nil => rfl
  | cons a l ih =>
    have h : sortDesc rank (a :: l) =
        (sortDesc rank l).orderedInsert (fun a b => rank b ≤ rank a) a := rfl
    rw [h, filter_orderedInsert (descending_sortDesc l), ← ih]
    by_cases ha : p a
    · rw [if_pos ha, List.filter_cons_of_pos ha]
      rfl
    · rw [if_neg ha, List.filter_cons_of_neg ha]

/-- Cutting a descending list at the first element below a bound keeps exactly the elements
below the bound. -/
theorem Descending.dropWhile_eq_filter (hl : Descending rank l) (c : β) :
    l.dropWhile (fun a => ! decide (rank a < c)) = l.filter fun a => decide (rank a < c) := by
  induction l with
  | nil => rfl
  | cons a l ih =>
    obtain ⟨ha, hl⟩ := List.pairwise_cons.mp hl
    by_cases hac : rank a < c
    · have hall : ∀ b ∈ a :: l, rank b < c := by
        intro b hb
        rcases List.mem_cons.mp hb with rfl | hb
        · exact hac
        · exact lt_of_le_of_lt (ha b hb) hac
      rw [List.dropWhile_cons_of_neg (by simpa using hac),
        List.filter_eq_self.mpr fun b hb => by simpa using hall b hb]
    · rw [List.dropWhile_cons_of_pos (by simpa using hac), ih hl,
        List.filter_cons_of_neg (by simpa using hac)]

/-- Sorting a list in descending order changes nothing. -/
theorem Descending.sortDesc_eq (hl : Descending rank l) : sortDesc rank l = l :=
  List.Pairwise.insertionSort_eq hl

/-- In a descending list the elements of the highest rank come first. -/
private lemma Descending.eq_filter_append (hl : Descending rank l) {c : β} (hc : ∀ a ∈ l, rank a ≤ c) :
    l = (l.filter fun a => rank a = c) ++ l.filter fun a => rank a < c := by
  induction l with
  | nil => rfl
  | cons a l ih =>
    obtain ⟨ha, hl⟩ := List.pairwise_cons.mp hl
    rcases lt_or_eq_of_le (hc a (by simp)) with hlt | heq
    · have hall : ∀ b ∈ a :: l, rank b < c := by
        intro b hb
        rcases List.mem_cons.mp hb with rfl | hb
        · exact hlt
        · exact lt_of_le_of_lt (ha b hb) hlt
      rw [List.filter_eq_nil_iff.mpr fun b hb => by simpa using (hall b hb).ne,
        List.filter_eq_self.mpr fun b hb => by simpa using hall b hb, List.nil_append]
    · rw [List.filter_cons_of_pos (by simpa using heq),
        List.filter_cons_of_neg (by simpa using heq.ge), List.cons_append,
        ← ih hl fun b hb => hc b (by simp [hb])]

/-- **A descending list is the sequence of its ranks' blocks.** -/
theorem Descending.eq_flatMap_filter {keys : List β} (hkeys : keys.Pairwise fun a b => b < a) :
    ∀ {l : List α}, Descending rank l → (∀ a ∈ l, rank a ∈ keys) →
      l = keys.flatMap fun k => l.filter fun a => rank a = k := by
  induction keys with
  | nil => intro l _ hmem; exact List.eq_nil_iff_forall_not_mem.mpr fun a ha =>
      absurd (hmem a ha) (by simp)
  | cons k keys ih =>
    intro l hl hmem
    obtain ⟨hk, hkeys⟩ := List.pairwise_cons.mp hkeys
    have hle : ∀ a ∈ l, rank a ≤ k := by
      intro a ha
      rcases List.mem_cons.mp (hmem a ha) with h | h
      · exact h.le
      · exact (hk _ h).le
    have hrest := ih hkeys (l := l.filter fun a => rank a < k) (hl.filter _) fun a ha => by
      obtain ⟨ha, hlt⟩ := List.mem_filter.mp ha
      exact (List.mem_cons.mp (hmem a ha)).resolve_left (by simpa using (of_decide_eq_true hlt).ne)
    rw [List.flatMap_cons]
    conv_lhs => rw [hl.eq_filter_append hle, hrest]
    congr 1
    refine List.flatMap_congr fun k' hk' => ?_
    rw [List.filter_filter]
    refine List.filter_congr fun a _ => ?_
    have hlt := hk k' hk'
    by_cases h : rank a = k'
    · simp [h, hlt]
    · simp [h]

end Foundations
