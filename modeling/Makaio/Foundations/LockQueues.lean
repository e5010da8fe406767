import Mathlib.Data.List.Pairwise
import Mathlib.Logic.Function.Basic
import Mathlib.Logic.Relation
import Mathlib.Tactic

set_option autoImplicit false

/-!
# Queues for locks

Every key has a queue of tickets.  The first ticket of a queue may hold the lock of the key; the ones after
it wait.  Tickets are numbered in the order in which they were requested.

## Main definitions

* `LockQueues` — the queues; `request`, `release` — a ticket is appended, tickets are taken out.
* `LockQueues.WaitsFor` — the owner of a waiting ticket waits for those of the tickets before.

## Main results

* `LockQueues.isFirst_request`, `LockQueues.isFirst_release` — a first ticket stays
  first.
* `LockQueues.not_transGen_waitsFor` — if owners request their locks in order, nobody waits for
  itself.
-/

namespace Foundations

/-- A ticket in the queue of a lock. -/
structure Ticket (O : Type*) where
  number : ℕ
  owner : O
  deriving DecidableEq

/-- A queue for every key. -/
structure LockQueues (K O : Type*) where
  queue : K → List (Ticket O)
  next : ℕ
  /-- Tickets are queued in the order of their numbers. -/
  sorted : ∀ k, (queue k).Pairwise fun a b => a.number < b.number
  /-- The next number is new. -/
  lt_next : ∀ k, ∀ t ∈ queue k, t.number < next
  /-- A number is used for one key. -/
  distinct : ∀ k k', ∀ t ∈ queue k, ∀ t' ∈ queue k', t.number = t'.number → k = k'

namespace LockQueues

variable {K O : Type*}

/-- No tickets. -/
def empty : LockQueues K O where
  queue _ := []
  next := 0
  sorted _ := .nil
  lt_next := by simp
  distinct := by simp

/-- The first ticket of a key. -/
def IsFirst (q : LockQueues K O) (k : K) (t : Ticket O) : Prop := (q.queue k).head? = some t

variable {q : LockQueues K O} {t : Ticket O}
variable {k k' : K} {t' : Ticket O} {released : K → Ticket O → Bool} {o : O}

/-- A first ticket is queued. -/
lemma IsFirst.mem (h : q.IsFirst k t) : t ∈ q.queue k :=
  List.mem_of_head? h

/-- There is one first ticket. -/
lemma IsFirst.unique {t : Ticket O} (h : q.IsFirst k t) (h' : q.IsFirst k t') : t = t' :=
  Option.some.inj (h.symm.trans h')

/-- Tickets of a key with one number are one ticket. -/
lemma eq_of_number_eq (q : LockQueues K O) {t : Ticket O} (h : t ∈ q.queue k) (h' : t' ∈ q.queue k)
    (hnumber : t.number = t'.number) : t = t' := by
  have hdistinct : ((q.queue k).map Ticket.number).Nodup :=
    List.pairwise_map.mpr ((q.sorted k).imp fun hlt => Nat.ne_of_lt hlt)
  exact List.inj_on_of_nodup_map hdistinct h h' hnumber

/-! ### Releases -/

/-- Take tickets out of their queues. -/
def release (q : LockQueues K O) (released : K → Ticket O → Bool) : LockQueues K O where
  queue k := (q.queue k).filter fun t => !released k t
  next := q.next
  sorted k := (q.sorted k).filter _
  lt_next k t ht := q.lt_next k t (List.mem_of_mem_filter ht)
  distinct k k' t ht t' ht' :=
    q.distinct k k' t (List.mem_of_mem_filter ht) t' (List.mem_of_mem_filter ht')

/-- The tickets after a release. -/
lemma mem_release : t ∈ (q.release released).queue k ↔ t ∈ q.queue k ∧ released k t = false := by
  simp [release]

/-- A first ticket that is not released stays first. -/
lemma isFirst_release (h : q.IsFirst k t) (hkept : released k t = false) :
    (q.release released).IsFirst k t := by
  obtain ⟨rest, hrest⟩ := List.head?_eq_some_iff.mp h
  simp [IsFirst, release, hrest, hkept]

/-! ### Waiting -/

/-- The owner of a waiting ticket waits for the owners of the tickets before it; `waits o k n` says that
`o` waits with its ticket `n` for `k`. -/
def WaitsFor (q : LockQueues K O) (waits : O → K → ℕ → Prop) (o o' : O) : Prop :=
  ∃ k n t, waits o k n ∧ t ∈ q.queue k ∧ t.number < n ∧ t.owner = o'

/-- **No waiting in a circle**: if every owner that waits for a key has its other tickets for lesser keys,
then nobody waits, through others, for itself.

**Proof sketch.** Along the waiting the keys grow, and for one key the numbers of the tickets fall. -/
theorem not_transGen_waitsFor (q : LockQueues K O) {waits : O → K → ℕ → Prop} {lt : K → K → Prop}
    (htrans : ∀ a b c, lt a b → lt b c → lt a c) (hirrefl : ∀ a, ¬lt a a)
    (hqueued : ∀ o k n, waits o k n → ⟨n, o⟩ ∈ q.queue k)
    (hordered : ∀ o k n, waits o k n → ∀ k', ∀ t ∈ q.queue k', t.owner = o →
      k' = k ∧ t.number = n ∨ lt k' k) (o : O) :
    ¬Relation.TransGen (q.WaitsFor waits) o o := by
  have hsingle : ∀ a b, q.WaitsFor waits a b → ∃ k n, waits a k n ∧
      ∀ k' n', waits b k' n' → lt k k' ∨ k = k' ∧ n' < n := by
    rintro a b ⟨k, n, t, hwait, ht, hnumber, rfl⟩
    refine ⟨k, n, hwait, fun k' n' hwait' => ?_⟩
    rcases hordered _ k' n' hwait' k t ht rfl with ⟨hk, hn⟩ | hlt
    · exact .inr ⟨hk, hn ▸ hnumber⟩
    · exact .inl hlt
  have hunique : ∀ a k n k' n', waits a k n → waits a k' n' → k = k' ∧ n = n' := by
    intro a k n k' n' hwait hwait'
    rcases hordered a k n hwait k' _ (hqueued a k' n' hwait') rfl with ⟨hk, hn⟩ | hlt
    · exact ⟨hk.symm, hn.symm⟩
    · rcases hordered a k' n' hwait' k _ (hqueued a k n hwait) rfl with ⟨hk, hn⟩ | hlt'
      · exact ⟨hk, hn⟩
      · exact absurd (htrans _ _ _ hlt hlt') (hirrefl _)
  have hpath : ∀ a b, Relation.TransGen (q.WaitsFor waits) a b → ∃ k n, waits a k n ∧
      ∀ k' n', waits b k' n' → lt k k' ∨ k = k' ∧ n' < n := by
    intro a b hab
    induction hab with
    | single h => exact hsingle _ _ h
    | tail hab hbc ih =>
      obtain ⟨k, n, hwait, hrank⟩ := ih
      obtain ⟨kb, nb, hwaitb, hrankb⟩ := hsingle _ _ hbc
      refine ⟨k, n, hwait, fun k' n' hwait' => ?_⟩
      rcases hrank kb nb hwaitb with hlt | ⟨rfl, hn⟩
      · rcases hrankb k' n' hwait' with hlt' | ⟨rfl, -⟩
        · exact .inl (htrans _ _ _ hlt hlt')
        · exact .inl hlt
      · rcases hrankb k' n' hwait' with hlt' | ⟨hk, hn'⟩
        · exact .inl hlt'
        · exact .inr ⟨hk, hn'.trans hn⟩
  intro hcycle
  obtain ⟨k, n, hwait, hrank⟩ := hpath o o hcycle
  rcases hrank k n hwait with hlt | ⟨-, hn⟩
  · exact hirrefl k hlt
  · exact lt_irrefl n hn

/-! ### Requests -/

variable [DecidableEq K]

/-- Append a ticket for a key. -/
def request (q : LockQueues K O) (k : K) (o : O) : LockQueues K O where
  queue := Function.update q.queue k (q.queue k ++ [⟨q.next, o⟩])
  next := q.next + 1
  sorted := by
    intro k'
    by_cases hk : k' = k
    · rw [hk, Function.update_self, List.pairwise_append]
      refine ⟨q.sorted k, List.pairwise_singleton _ _, fun a ha b hb => ?_⟩
      rw [List.mem_singleton.mp hb]
      exact q.lt_next k a ha
    · rw [Function.update_of_ne hk]
      exact q.sorted k'
  lt_next := by
    intro k' t ht
    by_cases hk : k' = k
    · rw [hk, Function.update_self, List.mem_append, List.mem_singleton] at ht
      rcases ht with ht | rfl
      · exact Nat.lt_succ_of_lt (q.lt_next k t ht)
      · exact Nat.lt_succ_self _
    · rw [Function.update_of_ne hk] at ht
      exact Nat.lt_succ_of_lt (q.lt_next k' t ht)
  distinct := by
    have hmem : ∀ k', ∀ t ∈ Function.update q.queue k (q.queue k ++ [⟨q.next, o⟩]) k',
        t ∈ q.queue k' ∨ k' = k ∧ t = ⟨q.next, o⟩ := by
      intro k' t ht
      by_cases hk : k' = k
      · rw [hk, Function.update_self, List.mem_append, List.mem_singleton] at ht
        exact ht.imp (fun ht => hk ▸ ht) fun ht => ⟨hk, ht⟩
      · rw [Function.update_of_ne hk] at ht
        exact .inl ht
    intro a b t ht t' ht' hnumber
    rcases hmem a t ht with hold | ⟨rfl, rfl⟩ <;> rcases hmem b t' ht' with hold' | ⟨rfl, rfl⟩
    · exact q.distinct a b t hold t' hold' hnumber
    · exact absurd hnumber (Nat.ne_of_lt (q.lt_next a t hold))
    · exact absurd hnumber.symm (Nat.ne_of_lt (q.lt_next b t' hold'))
    · rfl

/-- The tickets after a request. -/
lemma mem_request : t ∈ (q.request k o).queue k' ↔ t ∈ q.queue k' ∨ k' = k ∧ t = ⟨q.next, o⟩ := by
  by_cases hk : k' = k
  · simp [request, hk]
  · simp [request, hk]

/-- A first ticket stays first when others are requested. -/
lemma isFirst_request (h : q.IsFirst k' t) : (q.request k o).IsFirst k' t := by
  unfold IsFirst at h ⊢
  by_cases hk : k' = k
  · rw [hk] at h
    simp [request, hk, List.head?_append, h]
  · simpa [request, hk] using h

end LockQueues

end Foundations
