import Makaio.Materialization.Tickets

set_option autoImplicit false

/-!
# What the actions do to the locks

Whatever happens, at most one lease changes.  The changes are few, and every invariant of the locks is
derived from them.

## Main definitions

* `LockEffect` — what an action does to the queues and the leases.
* `Staged` — how far an acquisition has come.

## Main results

* `lockEffect_of_step` — the changes are these.
* `LockEffect.tickets`, `LockEffect.staged`,
  `LockEffect.active` — what they preserve.
-/

namespace Makaio.Materialization

open Foundations

/-! ### Effects -/

/-- A lease that has not taken any key. -/
def newLease (scope : NormalScope) (exclusive : Bool) : Lease :=
  ⟨scope, exclusive, false, .acquiring, [], [], []⟩

/-- A lease whose acquisition has ended. -/
def Lease.activated (lease : Lease) : Lease :=
  { lease with phase := .active, handed := !lease.exclusive }

/-- What an action does to the queues, the leases and the active leases. -/
inductive LockEffect (s : Coordinator) (a : Action) (t : Coordinator) : Prop
  /-- Nothing. -/
  | none (hqueues : t.queues = s.queues) (hleases : t.leases = s.leases)
      (hactive : t.activeLeases = s.activeLeases)
  /-- An acquisition requests the key of its artifact. -/
  | created (scope : NormalScope) (exclusive : Bool)
      (hqueues : t.queues = s.queues.request (artifactKey scope.artifactId) s.nextLease)
      (hleases : t.leases = Function.update s.leases s.nextLease
        (some ((newLease scope exclusive).waiting
          ⟨s.queues.next, artifactKey scope.artifactId, scope.providerKeys⟩)))
      (hactive : t.activeLeases = s.activeLeases) (hnext : s.nextLease < t.nextLease)
      (hpending : s.nextLease ∈ t.pendingAcquisitions)
  /-- An extension requests its first key. -/
  | extended (id : ℕ) (lease : Lease) (scope : NormalScope) (key : String) (rest : List String)
      (hlease : s.leases id = some lease) (hphase : lease.phase = .active)
      (hartifact : scope.artifactId = lease.scope.artifactId)
      (hkeys : ((scopeKeys scope).filter fun key => key ∉ lease.heldKeys) = key :: rest)
      (hordering : violatesOrdering lease.heldKeys (key :: rest) = false)
      (haction : ∃ scope, a = .extend id scope)
      (hqueues : t.queues = s.queues.request key id)
      (hleases : t.leases = Function.update s.leases id
        (some (lease.waiting ⟨s.queues.next, key, rest⟩)))
      (hactive : t.activeLeases = s.activeLeases)
  /-- A loop takes a key and requests the next one. -/
  | obtained (id : ℕ) (lease : Lease) (wait : Wait) (key : String) (rest : List String)
      (hlease : s.leases id = some lease) (hwait : wait ∈ lease.waits)
      (hfirst : s.queues.IsFirst wait.key ⟨wait.number, id⟩) (hrest : wait.rest = key :: rest)
      (hqueues : t.queues = s.queues.request key id)
      (hleases : t.leases = Function.update s.leases id
        (some ((lease.holding wait).waiting ⟨s.queues.next, key, rest⟩)))
      (hactive : t.activeLeases = s.activeLeases)
  /-- An acquisition takes its last key. -/
  | acquired (id : ℕ) (lease : Lease) (wait : Wait)
      (hlease : s.leases id = some lease) (hwait : wait ∈ lease.waits)
      (hfirst : s.queues.IsFirst wait.key ⟨wait.number, id⟩) (hrest : wait.rest = [])
      (hphase : lease.phase = .acquiring) (hqueues : t.queues = s.queues)
      (hleases : t.leases = Function.update s.leases id (some (lease.holding wait).activated))
      (hactive : t.activeLeases = insert id s.activeLeases)
  /-- An extension takes its last key. -/
  | completed (id : ℕ) (lease : Lease) (wait : Wait)
      (hlease : s.leases id = some lease) (hwait : wait ∈ lease.waits)
      (hfirst : s.queues.IsFirst wait.key ⟨wait.number, id⟩) (hrest : wait.rest = [])
      (hphase : lease.phase ≠ .acquiring) (hqueues : t.queues = s.queues)
      (hleases : t.leases = Function.update s.leases id (some (lease.holding wait)))
      (hactive : t.activeLeases = s.activeLeases)
  | released (id : ℕ) (lease : Lease) (hlease : s.leases id = some lease)
      (hphase : lease.phase = .active) (haction : a = .release id ∨ a = .unwind id)
      (hqueues : t.queues = s.queues.release fun key t => (key, t.number) ∈ lease.releases)
      (hleases : t.leases = Function.update s.leases id (some { lease with phase := .released }))
      (hactive : t.activeLeases = s.activeLeases.erase id)
  /-- A lease is handed to its operation. -/
  | handed (id : ℕ) (lease : Lease) (hlease : s.leases id = some lease)
      (hphase : lease.phase = .active) (hqueues : t.queues = s.queues)
      (hleases : t.leases = Function.update s.leases id (some { lease with handed := true }))
      (hactive : t.activeLeases = s.activeLeases)

variable {a : Action} {s t : Coordinator} {lease : Lease}

lemma lockEffect_acquire {s : Coordinator} (scope : Option NormalScope) (exclusive : Bool) :
    LockEffect s a (acquire s scope exclusive) := by
  unfold acquire
  split
  · cases scope with
    | none => exact .none rfl rfl rfl
    | some scope =>
      exact .created scope exclusive rfl rfl rfl (Nat.lt_succ_self _) (Finset.mem_insert_self _ _)
  · exact .none rfl rfl rfl

variable {id : ℕ} {wait : Wait}

lemma lockEffect_release (haction : a = .release id ∨ a = .unwind id) (hqueues : t.queues = s.queues)
    (hleases : t.leases = s.leases) (hactive : t.activeLeases = s.activeLeases) :
    LockEffect s a (release t id) := by
  unfold release
  rw [hleases]
  cases hlease : s.leases id with
  | none => exact .none hqueues hleases hactive
  | some lease =>
    dsimp only
    split
    · exact .released id lease hlease ‹_› haction (by rw [hqueues]) rfl (by rw [hactive])
    · exact .none hqueues hleases hactive

lemma lockEffect_extend {s : Coordinator} (scope : Scope) :
    LockEffect s (.extend id scope) (extend s id scope) := by
  unfold extend
  split
  · rename_i lease normalized hlease hscope
    split
    · rename_i hlegal
      split
      · exact .none rfl rfl rfl
      · rename_i key rest hkeys
        split
        · exact .none rfl rfl rfl
        · rename_i hordering
          exact .extended id lease normalized key rest hlease hlegal.1 hlegal.2 hkeys
            (Bool.eq_false_iff.mpr hordering) ⟨scope, rfl⟩ rfl rfl rfl
    · exact .none rfl rfl rfl
  · exact .none rfl rfl rfl

lemma lockEffect_resume {number : ℕ} (h : resume s id number = some t) : LockEffect s a t := by
  unfold resume at h
  split at h
  · cases h
  · rename_i lease hlease
    split at h
    · cases h
    · rename_i wait hwait
      have hnumber : wait.number = number := by simpa using List.find?_some hwait
      have hmem := List.mem_of_find?_eq_some hwait
      split_ifs at h with hfirst
      rw [← Option.some.inj h, ← hnumber] at *
      unfold proceed
      split
      · rename_i key rest hrest
        exact .obtained id lease wait key rest hlease hmem hfirst hrest rfl rfl rfl
      · rename_i hrest
        split
        · rename_i hphase
          exact .acquired id lease wait hlease hmem hfirst hrest hphase rfl rfl rfl
        · rename_i hphase
          exact .completed id lease wait hlease hmem hfirst hrest hphase rfl rfl rfl

/-- The effect of an exclusive operation. -/
lemma lockEffect_runExclusive {s : Coordinator} (scope : Scope) (messageId : Option ℕ) (isLocal : Bool) :
    LockEffect s a (runExclusive s scope messageId isLocal) := by
  unfold runExclusive
  split
  · exact .none rfl rfl rfl
  · split
    · exact lockEffect_acquire _ _
    · split
      · exact .none rfl rfl rfl
      · split
        · exact lockEffect_acquire _ _
        · split
          · exact .none rfl rfl rfl
          · exact .none rfl rfl rfl

/-- **What an action does to the locks.** -/
theorem lockEffect_of_step (h : step s a = some t) : LockEffect s a t := by
  cases a with
  | acquire scope =>
    rw [← Option.some.inj h]
    exact lockEffect_acquire _ _
  | extend id scope =>
    simp only [step] at h
    split_ifs at h
    rw [← Option.some.inj h]
    exact lockEffect_extend scope
  | release id =>
    simp only [step] at h
    split_ifs at h
    rw [← Option.some.inj h]
    exact lockEffect_release (.inl rfl) rfl rfl rfl
  | resume id number => exact lockEffect_resume h
  | forget id =>
    simp only [step] at h
    split_ifs at h
    rw [← Option.some.inj h]
    exact .none rfl rfl rfl
  | runExclusive scope messageId isLocal =>
    rw [← Option.some.inj h]
    exact lockEffect_runExclusive _ _ _
  | operate id =>
    simp only [step, operate] at h
    split at h
    · cases h
    · rename_i lease hlease
      split_ifs at h with hlegal
      rw [← Option.some.inj h]
      exact .handed id lease hlease hlegal.1 rfl rfl rfl
  | settle body =>
    simp only [step, settle] at h
    split_ifs at h <;> (rw [← Option.some.inj h]; exact .none rfl rfl rfl)
  | unwind id =>
    simp only [step, unwind] at h
    split_ifs at h
    rw [← Option.some.inj h]
    exact lockEffect_release (.inr rfl) rfl rfl rfl
  | authorize id scope =>
    simp only [step] at h
    split_ifs at h
    rw [← Option.some.inj h]
    unfold authorize
    split
    · split
      · exact .none rfl rfl rfl
      · exact .none rfl rfl rfl
    · exact .none rfl rfl rfl
  | conclude message =>
    simp only [step, conclude] at h
    split_ifs at h
    rw [← Option.some.inj h]
    exact .none rfl rfl rfl
  | destroy =>
    rw [← Option.some.inj h]
    exact .none rfl rfl rfl
  | drain =>
    simp only [step] at h
    split_ifs at h
    rw [← Option.some.inj h]
    exact .none rfl rfl rfl

/-! ### Preservation -/

/-- **The queues and the leases keep fitting together.** -/
theorem LockEffect.tickets (h : LockEffect s a t) (hs : Tickets s.queues s.leases)
    (hnew : s.leases s.nextLease = Option.none) :
    Tickets t.queues t.leases := by
  cases h with
  | none hqueues hleases =>
    rw [hqueues, hleases]
    exact hs
  | created scope exclusive hqueues hleases =>
    have hcreated : Tickets s.queues
        (Function.update s.leases s.nextLease (some (newLease scope exclusive))) :=
      hs.create hnew rfl rfl rfl
    have hrequested := hcreated.request (Function.update_self ..) (artifactKey scope.artifactId)
      scope.providerKeys
    rw [Function.update_idem] at hrequested
    rw [hqueues, hleases]
    exact hrequested
  | extended id lease scope key rest hlease _ _ _ _ _ hqueues hleases =>
    rw [hqueues, hleases]
    exact hs.request hlease key rest
  | obtained id lease wait key rest hlease _ hfirst _ hqueues hleases =>
    have hrequested := (hs.hold hlease hfirst).request (Function.update_self ..) key rest
    rw [Function.update_idem] at hrequested
    rw [hqueues, hleases]
    exact hrequested
  | acquired id lease wait hlease _ hfirst _ hphase hqueues hleases =>
    have hholding : (lease.holding wait).phase = .acquiring := hphase
    have hactivated : Tickets s.queues
        (Function.update (Function.update s.leases id (some (lease.holding wait))) id
          (some (lease.holding wait).activated)) :=
      (hs.hold hlease hfirst).relabel (Function.update_self ..) rfl rfl rfl fun _ hcon => by
        rw [hholding] at hcon
        cases hcon
    rw [Function.update_idem] at hactivated
    rw [hqueues, hleases]
    exact hactivated
  | completed id lease wait hlease _ hfirst _ _ hqueues hleases =>
    rw [hqueues, hleases]
    exact hs.hold hlease hfirst
  | released id lease hlease hphase _ hqueues hleases =>
    rw [hqueues, hleases]
    exact hs.release hlease (by rw [hphase]; decide)
  | handed id lease hlease _ hqueues hleases =>
    rw [hqueues, hleases]
    exact hs.relabel hlease rfl rfl rfl fun h => h

/-- A property of single leases holds of all of them. -/
def AllLeases (p : Lease → Prop) (s : Coordinator) : Prop := ∀ id lease, s.leases id = some lease → p lease

/-- A property of all leases after one has changed. -/
lemma AllLeases.update {p : Lease → Prop} (hs : AllLeases p s)
    (hleases : t.leases = Function.update s.leases id (some lease)) (h : p lease) :
    AllLeases p t := by
  intro other lease' hlease'
  rw [hleases] at hlease'
  by_cases hid : other = id
  · rw [hid, Function.update_self] at hlease'
    rw [← Option.some.inj hlease']
    exact h
  · rw [Function.update_of_ne hid] at hlease'
    exact hs other lease' hlease'

/-- How far an acquisition has come: it has taken its keys in order up to the one it waits for, and in the
end all of them. -/
structure Staged (lease : Lease) : Prop where
  loop : lease.phase = .acquiring → ∃ wait, lease.waits = [wait] ∧
    lease.heldKeys ++ wait.key :: wait.rest = scopeKeys lease.scope
  scope : lease.phase ≠ .acquiring → ∀ key ∈ scopeKeys lease.scope, key ∈ lease.heldKeys

/-- What a lease holds it keeps holding. -/
lemma mem_holding {key : String} :
    key ∈ (lease.holding wait).heldKeys ↔ key ∈ lease.heldKeys ∨ key = wait.key := by
  rw [Lease.holding]
  split_ifs with hmem
  · exact ⟨.inl, fun h => h.elim (fun h => h) fun h => h ▸ hmem⟩
  · simp

/-- A key that is taken in order is a new one. -/
lemma heldKeys_holding {rest : List String} (h : (lease.heldKeys ++ wait.key :: rest).Pairwise Precedes) :
    (lease.holding wait).heldKeys = lease.heldKeys ++ [wait.key] := by
  have hnot : wait.key ∉ lease.heldKeys := fun hmem =>
    not_precedes_self _ ((List.pairwise_append.mp h).2.2 _ hmem _ List.mem_cons_self)
  rw [Lease.holding]
  rw [if_neg hnot]

/-- The only loop of a lease is suspended no more after it has taken its key. -/
lemma waits_holding (h : lease.waits = [wait]) : (lease.holding wait).waits = [] := by
  rw [Lease.holding]
  rw [h]
  simp

/-- The loop of an acquisition is the only one. -/
lemma Staged.eq_wait (h : Staged lease) (hphase : lease.phase = .acquiring) (hwait : wait ∈ lease.waits) :
    lease.waits = [wait] ∧ lease.heldKeys ++ wait.key :: wait.rest = scopeKeys lease.scope := by
  obtain ⟨other, hwaits, hkeys⟩ := h.loop hphase
  rw [hwaits, List.mem_singleton] at hwait
  exact ⟨by rw [hwaits, hwait], by rw [hwait]; exact hkeys⟩

/-- **Acquisitions keep to their keys.** -/
theorem LockEffect.staged (h : LockEffect s a t) (hs : AllLeases Staged s) : AllLeases Staged t := by
  cases h with
  | none _ hleases =>
    unfold AllLeases
    rw [hleases]
    exact hs
  | created scope exclusive _ hleases =>
    refine hs.update hleases ⟨fun _ => ⟨_, rfl, rfl⟩, fun hphase => absurd rfl hphase⟩
  | extended id lease scope key rest hlease hphase _ _ _ _ _ hleases =>
    have hactive : (lease.waiting ⟨s.queues.next, key, rest⟩).phase ≠ .acquiring := by
      rw [Lease.waiting, hphase]
      decide
    exact hs.update hleases ⟨fun h => absurd h hactive, fun _ =>
      (hs id lease hlease).scope (by rw [hphase]; decide)⟩
  | obtained id lease wait key rest hlease hwait _ hrest _ hleases =>
    have hstaged := hs id lease hlease
    refine hs.update hleases ⟨fun hphase => ?_, fun hphase key' hkey' => ?_⟩
    · obtain ⟨hwaits, hkeys⟩ := hstaged.eq_wait hphase hwait
      have hsorted : (lease.heldKeys ++ wait.key :: wait.rest).Pairwise Precedes := by
        rw [hkeys]
        exact scopeKeys_sorted _
      refine ⟨⟨s.queues.next, key, rest⟩, ?_, ?_⟩
      · rw [Lease.waiting, waits_holding hwaits]
        rfl
      · rw [Lease.waiting, heldKeys_holding hsorted, List.append_assoc]
        rw [← hrest]
        exact hkeys
    · exact mem_holding.mpr (.inl (hstaged.scope hphase key' hkey'))
  | acquired id lease wait hlease hwait _ hrest hphase _ hleases =>
    obtain ⟨-, hkeys⟩ := (hs id lease hlease).eq_wait hphase hwait
    refine hs.update hleases ⟨(fun h => by cases h), fun _ key hkey => ?_⟩
    have hmem : key ∈ lease.heldKeys ++ wait.key :: wait.rest := by
      rw [hkeys]
      exact hkey
    rw [hrest, List.mem_append, List.mem_singleton] at hmem
    exact mem_holding.mpr hmem
  | completed id lease wait hlease _ _ _ hphase _ hleases =>
    exact hs.update hleases ⟨fun h => absurd h hphase, fun hphase key hkey =>
      mem_holding.mpr (.inl ((hs id lease hlease).scope hphase key hkey))⟩
  | released id lease hlease hphase _ _ hleases =>
    exact hs.update hleases ⟨(fun h => by cases h), fun _ =>
      (hs id lease hlease).scope (by rw [hphase]; decide)⟩
  | handed id lease hlease _ _ hleases =>
    exact hs.update hleases ⟨(hs id lease hlease).loop, (hs id lease hlease).scope⟩

/-- The active leases are those whose acquisition has ended and that are not released. -/
def ActiveLeases (s : Coordinator) : Prop :=
  ∀ id, id ∈ s.activeLeases ↔ ∃ lease, s.leases id = some lease ∧ lease.phase = .active

/-- The active leases after one has changed. -/
lemma ActiveLeases.update (hs : ActiveLeases s)
    (hleases : t.leases = Function.update s.leases id (some lease))
    (hother : ∀ other, other ≠ id → (other ∈ t.activeLeases ↔ other ∈ s.activeLeases))
    (hself : id ∈ t.activeLeases ↔ lease.phase = .active) : ActiveLeases t := by
  intro other
  rw [hleases]
  by_cases hid : other = id
  · rw [hid, hself, Function.update_self]
    simp
  · rw [hother other hid, Function.update_of_ne hid]
    exact hs other

/-- The active leases after one has changed that stays as active as it was. -/
lemma ActiveLeases.update_same {lease lease' : Lease} (hs : ActiveLeases s)
    (hlease : s.leases id = some lease) (hleases : t.leases = Function.update s.leases id (some lease'))
    (hactive : t.activeLeases = s.activeLeases) (hphase : lease'.phase = lease.phase) :
    ActiveLeases t := by
  refine hs.update hleases (fun other _ => by rw [hactive]) ?_
  rw [hactive, hs id, hlease, hphase]
  simp

/-- **The active leases are kept.** -/
theorem LockEffect.active (h : LockEffect s a t) (hs : ActiveLeases s)
    (hnew : s.leases s.nextLease = Option.none) : ActiveLeases t := by
  cases h with
  | none _ hleases hactive =>
    intro id
    rw [hleases, hactive]
    exact hs id
  | created scope exclusive _ hleases hactive =>
    refine hs.update hleases (fun other _ => by rw [hactive]) ?_
    rw [hactive, hs, hnew]
    simp [newLease, Lease.waiting]
  | extended id lease scope key rest hlease _ _ _ _ _ _ hleases hactive
  | obtained id lease wait key rest hlease _ _ _ _ hleases hactive =>
    exact hs.update_same hlease hleases hactive rfl
  | acquired id lease wait hlease _ _ _ _ _ hleases hactive =>
    refine hs.update hleases (fun other hne => by simp [hactive, hne]) ?_
    simp [hactive, Lease.activated]
  | completed id lease wait hlease _ _ _ _ _ hleases hactive =>
    exact hs.update_same hlease hleases hactive rfl
  | released id lease hlease _ _ _ hleases hactive =>
    refine hs.update hleases (fun other hne => by simp [hactive, hne]) ?_
    simp [hactive]
  | handed id lease hlease _ _ hleases hactive =>
    exact hs.update_same hlease hleases hactive rfl

/-- A lease stays, and keeps its scope and its held keys; its acquisition has ended if it had, and it is
active if it was and is not released. -/
lemma LockEffect.kept (h : LockEffect s a t) (hnew : s.leases s.nextLease = Option.none)
    (hlease : s.leases id = some lease) :
    ∃ lease', t.leases id = some lease' ∧ lease'.scope = lease.scope ∧
      (∀ key ∈ lease.heldKeys, key ∈ lease'.heldKeys) ∧
      (lease.phase = .active → lease'.phase = .active ∨ a = .release id ∨ a = .unwind id) := by
  have hupdate : ∀ other changed changed', s.leases other = some changed →
      t.leases = Function.update s.leases other (some changed') → changed'.scope = changed.scope →
      (∀ key ∈ changed.heldKeys, key ∈ changed'.heldKeys) →
      (changed.phase = .active → changed'.phase = .active ∨ a = .release other ∨ a = .unwind other) →
      ∃ lease', t.leases id = some lease' ∧ lease'.scope = lease.scope ∧
        (∀ key ∈ lease.heldKeys, key ∈ lease'.heldKeys) ∧
        (lease.phase = .active → lease'.phase = .active ∨ a = .release id ∨ a = .unwind id) := by
    intro other changed changed' hchanged hleases hscope hheld hphase
    rw [hleases]
    by_cases hid : id = other
    · subst hid
      cases hchanged.symm.trans hlease
      exact ⟨changed', Function.update_self .., hscope, hheld, hphase⟩
    · exact ⟨lease, by rw [Function.update_of_ne hid, hlease], rfl, fun _ hkey => hkey, .inl⟩
  cases h with
  | none _ hleases => exact ⟨lease, by rw [hleases, hlease], rfl, fun _ hkey => hkey, .inl⟩
  | created scope exclusive _ hleases =>
    refine ⟨lease, ?_, rfl, fun _ hkey => hkey, .inl⟩
    rw [hleases, Function.update_of_ne, hlease]
    rintro rfl
    rw [hnew] at hlease
    cases hlease
  | extended other changed scope key rest hchanged _ _ _ _ _ _ hleases =>
    exact hupdate other changed _ hchanged hleases rfl (fun _ hkey => hkey) .inl
  | obtained other changed wait key rest hchanged _ _ _ _ hleases =>
    exact hupdate other changed _ hchanged hleases rfl
      (fun _ hkey => mem_holding.mpr (.inl hkey)) .inl
  | acquired other changed wait hchanged _ _ _ _ _ hleases =>
    exact hupdate other changed _ hchanged hleases rfl
      (fun _ hkey => mem_holding.mpr (.inl hkey)) fun _ => .inl rfl
  | completed other changed wait hchanged _ _ _ _ _ hleases =>
    exact hupdate other changed _ hchanged hleases rfl
      (fun _ hkey => mem_holding.mpr (.inl hkey)) .inl
  | released other changed hchanged _ haction _ hleases =>
    exact hupdate other changed _ hchanged hleases rfl (fun _ hkey => hkey) fun _ => .inr haction
  | handed other changed hchanged _ _ hleases =>
    exact hupdate other changed _ hchanged hleases rfl (fun _ hkey => hkey) .inl

/-- Numbers at which there is no lease yet stay so until they are given out. -/
lemma LockEffect.fresh (h : LockEffect s a t) (hs : ∀ id, s.nextLease ≤ id → s.leases id = Option.none)
    (hnext : s.nextLease ≤ t.nextLease) (id : ℕ) (hid : t.nextLease ≤ id) : t.leases id = Option.none := by
  have hnone := hs id (hnext.trans hid)
  have hupdate : ∀ other changed changed', s.leases other = some changed →
      t.leases = Function.update s.leases other (some changed') → t.leases id = Option.none := by
    intro other changed changed' hchanged hleases
    rw [hleases, Function.update_of_ne, hnone]
    rintro rfl
    rw [hnone] at hchanged
    cases hchanged
  cases h with
  | none _ hleases => rw [hleases, hnone]
  | created scope exclusive _ hleases _ hlt =>
    rw [hleases, Function.update_of_ne (Nat.ne_of_gt (hlt.trans_le hid)), hnone]
  | extended other changed scope key rest hchanged _ _ _ _ _ _ hleases
  | obtained other changed wait key rest hchanged _ _ _ _ hleases
  | acquired other changed wait hchanged _ _ _ _ _ hleases
  | completed other changed wait hchanged _ _ _ _ _ hleases =>
    exact hupdate other changed _ hchanged hleases
  | released other changed hchanged _ _ _ hleases | handed other changed hchanged _ _ hleases =>
    exact hupdate other changed _ hchanged hleases

end Makaio.Materialization
