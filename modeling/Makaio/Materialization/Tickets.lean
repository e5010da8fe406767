import Makaio.Materialization.Coordinator

set_option autoImplicit false

/-!
# Leases and their tickets

Every ticket in a queue belongs to a lease, which either waits with it or holds its key; a ticket that holds
its key is the first one, so that a key has one holder.  This is so along every run.

## Main definitions

* `Fits`, `Tickets` — how a lease, and all leases, fit the
  queues.
* `Holds` — a lease holds a key.

## Main results

* `holds_unique` — a key has one holder.
* `Tickets.request`, `Tickets.hold`,
  `Tickets.release` — the changes of queues and leases keep them fitting together.
-/

namespace Makaio.Materialization

open Foundations

/-- How a lease fits the queues. -/
structure Fits (queues : LockQueues String ℕ) (id : ℕ) (lease : Lease) : Prop where
  /-- The lease waits with its tickets or has obtained their keys. -/
  owned : ∀ key number, ⟨number, id⟩ ∈ queues.queue key →
    (∃ rest, ⟨number, key, rest⟩ ∈ lease.waits) ∨ (key, number) ∈ lease.releases
  /-- The tickets that the lease waits with are queued, and have not obtained their keys. -/
  queued : ∀ wait ∈ lease.waits,
    ⟨wait.number, id⟩ ∈ queues.queue wait.key ∧ (wait.key, wait.number) ∉ lease.releases
  /-- The ticket of an obtained key is the first one while it is queued. -/
  first : ∀ key number, (key, number) ∈ lease.releases → ⟨number, id⟩ ∈ queues.queue key →
    queues.IsFirst key ⟨number, id⟩
  /-- The tickets of obtained keys are queued until the lease is released. -/
  kept : lease.phase ≠ .released → ∀ key number, (key, number) ∈ lease.releases →
    ⟨number, id⟩ ∈ queues.queue key
  /-- The held keys are the obtained ones. -/
  held : ∀ key, key ∈ lease.heldKeys ↔ ∃ number, (key, number) ∈ lease.releases
  /-- The tickets of obtained keys have been requested. -/
  bound : ∀ key number, (key, number) ∈ lease.releases → number < queues.next

/-- How the queues and the leases fit together. -/
structure Tickets (queues : LockQueues String ℕ) (leases : ℕ → Option Lease) : Prop where
  /-- A ticket belongs to a lease. -/
  owner : ∀ key, ∀ t ∈ queues.queue key, ∃ lease, leases t.owner = some lease
  /-- The leases fit the queues. -/
  fits : ∀ id lease, leases id = some lease → Fits queues id lease

/-- A lease holds a key: it has obtained the key, and its ticket is still queued. -/
def Holds (s : Coordinator) (id : ℕ) (key : String) : Prop :=
  ∃ lease number, s.leases id = some lease ∧ (key, number) ∈ lease.releases ∧
    ⟨number, id⟩ ∈ s.queues.queue key

variable {queues queues' : LockQueues String ℕ} {leases : ℕ → Option Lease} {id : ℕ} {lease : Lease}

/-! ### Holding -/

variable {key : String} {s : Coordinator}

/-- **A key has one holder.** -/
theorem holds_unique (h : Tickets s.queues s.leases) {id id' : ℕ} (hid : Holds s id key)
    (hid' : Holds s id' key) : id = id' := by
  obtain ⟨lease, number, hlease, hrelease, hqueue⟩ := hid
  obtain ⟨lease', number', hlease', hrelease', hqueue'⟩ := hid'
  have hfirst := (h.fits id lease hlease).first key number hrelease hqueue
  have hfirst' := (h.fits id' lease' hlease').first key number' hrelease' hqueue'
  exact congrArg Ticket.owner (hfirst.unique hfirst')

/-- A lease that is not released holds its held keys. -/
lemma holds_of_mem (h : Tickets s.queues s.leases) {id : ℕ} {lease : Lease}
    (hlease : s.leases id = some lease) (hphase : lease.phase ≠ .released) (hkey : key ∈ lease.heldKeys) :
    Holds s id key := by
  have hfits := h.fits id lease hlease
  obtain ⟨number, hnumber⟩ := (hfits.held key).mp hkey
  exact ⟨lease, number, hlease, hnumber, hfits.kept hphase key number hnumber⟩

/-! ### Changes of one lease -/

/-- A lease fits queues in which its own tickets are as they were. -/
lemma Fits.mono (h : Fits queues id lease)
    (hsame : ∀ key number, ⟨number, id⟩ ∈ queues'.queue key ↔ ⟨number, id⟩ ∈ queues.queue key)
    (hfirst : ∀ key number, queues.IsFirst key ⟨number, id⟩ → queues'.IsFirst key ⟨number, id⟩)
    (hnext : queues.next ≤ queues'.next) : Fits queues' id lease where
  owned key number hmem := h.owned key number ((hsame key number).mp hmem)
  queued wait hwait := ⟨(hsame _ _).mpr (h.queued wait hwait).1, (h.queued wait hwait).2⟩
  first key number hnumber hmem := hfirst key number (h.first key number hnumber ((hsame _ _).mp hmem))
  kept hphase key number hnumber := (hsame _ _).mpr (h.kept hphase key number hnumber)
  held := h.held
  bound key number hnumber := lt_of_lt_of_le (h.bound key number hnumber) hnext

/-- **A change of one lease and its tickets.**  The other leases fit if their tickets are as they were. -/
theorem Tickets.update (h : Tickets queues leases) (hfits : Fits queues' id lease)
    (hsame : ∀ key t, t.owner ≠ id → (t ∈ queues'.queue key ↔ t ∈ queues.queue key))
    (hfirst : ∀ key t, t.owner ≠ id → queues.IsFirst key t → queues'.IsFirst key t)
    (hnext : queues.next ≤ queues'.next) :
    Tickets queues' (Function.update leases id (some lease)) where
  owner key t ht := by
    by_cases hid : t.owner = id
    · exact ⟨lease, by rw [hid, Function.update_self]⟩
    · rw [Function.update_of_ne hid]
      exact h.owner key t ((hsame key t hid).mp ht)
  fits other lease' hlease' := by
    by_cases hid : other = id
    · rw [hid, Function.update_self] at hlease'
      rw [hid, ← Option.some.inj hlease']
      exact hfits
    · rw [Function.update_of_ne hid] at hlease'
      exact (h.fits other lease' hlease').mono (fun key number => hsame key _ hid)
        (fun key number => hfirst key _ hid) hnext

lemma tickets_empty : Tickets .empty fun _ => none where
  owner key t ht := by simp [LockQueues.empty] at ht
  fits id lease h := by cases h

section

variable (h : Tickets queues leases)
include h

/-- A lease changes what is neither its waiting nor its keys. -/
lemma Tickets.relabel {lease' : Lease} (hlease : leases id = some lease)
    (hwaits : lease'.waits = lease.waits) (hreleases : lease'.releases = lease.releases)
    (hheld : lease'.heldKeys = lease.heldKeys) (hphase : lease'.phase ≠ .released → lease.phase ≠ .released) :
    Tickets queues (Function.update leases id (some lease')) := by
  have hfits := h.fits id lease hlease
  refine h.update ?_ (fun _ _ _ => Iff.rfl) (fun _ _ _ hfirst => hfirst) le_rfl
  constructor
  · rw [hwaits, hreleases]
    exact hfits.owned
  · rw [hwaits, hreleases]
    exact hfits.queued
  · rw [hreleases]
    exact hfits.first
  · rw [hreleases]
    exact fun h => hfits.kept (hphase h)
  · rw [hheld, hreleases]
    exact hfits.held
  · rw [hreleases]
    exact hfits.bound

/-- A new lease has no tickets yet. -/
lemma Tickets.create (hid : leases id = none) (hwaits : lease.waits = [])
    (hreleases : lease.releases = []) (hheld : lease.heldKeys = []) :
    Tickets queues (Function.update leases id (some lease)) := by
  refine h.update ?_ (fun _ _ _ => Iff.rfl) (fun _ _ _ hfirst => hfirst) le_rfl
  constructor
  · intro key number hmem
    obtain ⟨old, hold⟩ := h.owner key _ hmem
    rw [hid] at hold
    cases hold
  · simp [hwaits]
  · simp [hreleases]
  · simp [hreleases]
  · simp [hheld, hreleases]
  · simp [hreleases]

/-- A lease requests a key. -/
lemma Tickets.request (hlease : leases id = some lease) (key : String) (rest : List String) :
    Tickets (queues.request key id)
      (Function.update leases id (some (lease.waiting ⟨queues.next, key, rest⟩))) := by
  have hfits := h.fits id lease hlease
  have hold : ∀ key' number, (key', number) ∈ lease.releases →
      ⟨number, id⟩ ∈ (queues.request key id).queue key' → ⟨number, id⟩ ∈ queues.queue key' := by
    intro key' number hnumber hmem
    rcases LockQueues.mem_request.mp hmem with hmem | ⟨-, heq⟩
    · exact hmem
    · exact absurd (congrArg Ticket.number heq) (Nat.ne_of_lt (hfits.bound key' number hnumber))
  refine h.update ?_ (fun key' t hid => ?_) (fun _ _ _ hfirst => LockQueues.isFirst_request hfirst)
    (Nat.le_succ _)
  · constructor
    · intro key' number hmem
      rcases LockQueues.mem_request.mp hmem with hmem | ⟨rfl, heq⟩
      · refine (hfits.owned key' number hmem).imp_left ?_
        rintro ⟨rest', hwait⟩
        exact ⟨rest', List.mem_append_left _ hwait⟩
      · obtain rfl : number = queues.next := congrArg Ticket.number heq
        exact .inl ⟨rest, List.mem_append_right _ (List.mem_singleton.mpr rfl)⟩
    · intro wait hwait
      rcases List.mem_append.mp hwait with hwait | hwait
      · exact ⟨LockQueues.mem_request.mpr (.inl (hfits.queued wait hwait).1), (hfits.queued wait hwait).2⟩
      · rw [List.mem_singleton.mp hwait]
        exact ⟨LockQueues.mem_request.mpr (.inr ⟨rfl, rfl⟩), fun hnumber =>
          lt_irrefl _ (hfits.bound _ _ hnumber)⟩
    · exact fun key' number hnumber hmem =>
        LockQueues.isFirst_request (hfits.first key' number hnumber (hold key' number hnumber hmem))
    · exact fun hphase key' number hnumber =>
        LockQueues.mem_request.mpr (.inl (hfits.kept hphase key' number hnumber))
    · exact hfits.held
    · exact fun key' number hnumber => Nat.lt_succ_of_lt (hfits.bound key' number hnumber)
  · rw [LockQueues.mem_request]
    refine ⟨fun h => h.resolve_right ?_, .inl⟩
    rintro ⟨-, rfl⟩
    exact hid rfl

/-- A lease obtains a key with its first ticket. -/
lemma Tickets.hold (hlease : leases id = some lease) {wait : Wait}
    (hfirst : queues.IsFirst wait.key ⟨wait.number, id⟩) :
    Tickets queues (Function.update leases id (some (lease.holding wait))) := by
  have hfits := h.fits id lease hlease
  have hreleases : ∀ key number, (key, number) ∈ (lease.holding wait).releases ↔
      (key, number) ∈ lease.releases ∨ key = wait.key ∧ number = wait.number := by
    intro key number
    simp [Lease.holding]
  refine h.update ?_ (fun _ _ _ => Iff.rfl) (fun _ _ _ hfirst => hfirst) le_rfl
  constructor
  · intro key number hmem
    rw [hreleases]
    rcases hfits.owned key number hmem with ⟨rest, hother⟩ | hnumber
    · by_cases heq : number = wait.number
      · have hkey : key = wait.key := queues.distinct key wait.key _ hmem _ hfirst.mem heq
        exact .inr (.inr ⟨hkey, heq⟩)
      · exact .inl ⟨rest, List.mem_filter.mpr ⟨hother, by simpa using heq⟩⟩
    · exact .inr (.inl hnumber)
  · intro other hother
    obtain ⟨hmem, hne⟩ := List.mem_filter.mp hother
    obtain ⟨hqueue, hnumber⟩ := hfits.queued other hmem
    refine ⟨hqueue, fun hcon => ?_⟩
    rcases (hreleases _ _).mp hcon with hcon | ⟨-, heq⟩
    · exact hnumber hcon
    · simp [heq] at hne
  · intro key number hnumber hmem
    rcases (hreleases key number).mp hnumber with hnumber | ⟨rfl, rfl⟩
    · exact hfits.first key number hnumber hmem
    · exact hfirst
  · intro hphase key number hnumber
    rcases (hreleases key number).mp hnumber with hnumber | ⟨rfl, rfl⟩
    · exact hfits.kept hphase key number hnumber
    · exact hfirst.mem
  · intro key
    have hkeys : key ∈ (lease.holding wait).heldKeys ↔ key ∈ lease.heldKeys ∨ key = wait.key := by
      rw [Lease.holding]
      split_ifs with hmem
      · exact ⟨.inl, fun h => h.elim (fun h => h) fun h => h ▸ hmem⟩
      · simp
    simp only [hkeys, hreleases, hfits.held]
    constructor
    · rintro (⟨number, hnumber⟩ | hkey)
      · exact ⟨number, .inl hnumber⟩
      · exact ⟨wait.number, .inr ⟨hkey, rfl⟩⟩
    · rintro ⟨number, hnumber | ⟨hkey, -⟩⟩
      · exact .inl ⟨number, hnumber⟩
      · exact .inr hkey
  · intro key number hnumber
    rcases (hreleases key number).mp hnumber with hnumber | ⟨rfl, rfl⟩
    · exact hfits.bound key number hnumber
    · exact queues.lt_next _ _ hfirst.mem

/-- A lease is released: its obtained keys are free, whoever else is queued for them. -/
lemma Tickets.release (hlease : leases id = some lease) (hphase : lease.phase ≠ .released) :
    Tickets (queues.release fun key t => (key, t.number) ∈ lease.releases)
      (Function.update leases id (some { lease with phase := .released })) := by
  have hfits := h.fits id lease hlease
  have hother : ∀ key t, t ∈ queues.queue key → t.owner ≠ id →
      decide ((key, t.number) ∈ lease.releases) = false := by
    intro key t ht hid
    rw [decide_eq_false_iff_not]
    intro hnumber
    have hown := hfits.kept hphase key t.number hnumber
    exact hid (congrArg Ticket.owner (queues.eq_of_number_eq ht hown rfl))
  refine h.update ?_ (fun key t hid => ?_) (fun key t hid hfirst => ?_) le_rfl
  · constructor
    · intro key number hmem
      obtain ⟨hmem, hnumber⟩ := LockQueues.mem_release.mp hmem
      exact .inl ((hfits.owned key number hmem).resolve_right (of_decide_eq_false hnumber))
    · intro wait hwait
      obtain ⟨hqueue, hnumber⟩ := hfits.queued wait hwait
      exact ⟨LockQueues.mem_release.mpr ⟨hqueue, decide_eq_false hnumber⟩, hnumber⟩
    · intro key number hnumber hmem
      exact absurd hnumber (of_decide_eq_false (LockQueues.mem_release.mp hmem).2)
    · exact fun hcon => absurd rfl hcon
    · exact hfits.held
    · exact hfits.bound
  · rw [LockQueues.mem_release]
    exact ⟨fun ht => ht.1, fun ht => ⟨ht, hother key t ht hid⟩⟩
  · exact LockQueues.isFirst_release hfirst (hother key t hfirst.mem hid)

/-- After a release the lease has no tickets but those it waits with. -/
lemma waits_of_release (hlease : leases id = some lease) {number : ℕ}
    (hmem : ⟨number, id⟩ ∈ (queues.release fun key t => (key, t.number) ∈ lease.releases).queue key) :
    ∃ rest, ⟨number, key, rest⟩ ∈ lease.waits := by
  obtain ⟨hmem, hnumber⟩ := LockQueues.mem_release.mp hmem
  exact ((h.fits id lease hlease).owned key number hmem).resolve_right (of_decide_eq_false hnumber)

end

end Makaio.Materialization
