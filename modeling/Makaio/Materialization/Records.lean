import Makaio.Materialization.Coordinator

set_option autoImplicit false

/-!
# Authorizations, operations and admission

What the actions do besides the locks: to the authorizations and the operations that run, and to the
admission of acquisitions.

## Main definitions

* `RecordEffect`, `AdmissionEffect` — what an action does to
  them.
* `OneShot` — an authorization lets in one operation, which matches it.

## Main results

* `effects_of_step` — the effects are these.
* `RecordEffect.spendable` — authorizations stay one-shot.
-/

namespace Makaio.Materialization

open Foundations

/-! ### Authorizations and operations -/

/-- What an action does to the authorizations and the operations that run. -/
inductive RecordEffect (s : Coordinator) (t : Coordinator) : Prop
  /-- Nothing. -/
  | same (hauthorized : t.authorizedRequests = s.authorizedRequests) (hissued : t.issued = s.issued)
      (hnext : t.nextMessage = s.nextMessage) (hentries : t.entries = s.entries)
      (hbodies : t.bodies = s.bodies)
  /-- An operation runs under a lease of its own. -/
  | operated (id : ℕ) (lease : Lease) (hlease : s.leases id = some lease) (hphase : lease.phase = .active)
      (hauthorized : t.authorizedRequests = s.authorizedRequests) (hissued : t.issued = s.issued)
      (hnext : t.nextMessage = s.nextMessage) (hentries : t.entries = s.entries)
      (hbodies : t.bodies = s.bodies ++ [⟨id, scopeKeys lease.scope, none⟩])
      (hleases : t.leases = Function.update s.leases id (some { lease with handed := true }))
  /-- An operation settles. -/
  | settled (body : Body) (hauthorized : t.authorizedRequests = s.authorizedRequests)
      (hissued : t.issued = s.issued) (hnext : t.nextMessage = s.nextMessage)
      (hentries : t.entries = s.entries) (hbodies : t.bodies = s.bodies.erase body)
  /-- An authorization is withdrawn, or consumed in vain. -/
  | spent (message : ℕ)
      (hauthorized : t.authorizedRequests = Function.update s.authorizedRequests message none)
      (hissued : t.issued = s.issued) (hnext : t.nextMessage = s.nextMessage)
      (hentries : t.entries = s.entries) (hbodies : t.bodies = s.bodies)
  /-- An operation consumes an authorization. -/
  | entered (message : ℕ) (authorization : Authorization)
      (hsome : s.authorizedRequests message = some authorization)
      (hactive : authorization.lease ∈ s.activeLeases)
      (hauthorized : t.authorizedRequests = Function.update s.authorizedRequests message none)
      (hissued : t.issued = s.issued) (hnext : t.nextMessage = s.nextMessage)
      (hentries : t.entries = s.entries ++
        [⟨message, authorization.lease, authorization.keys, true, true⟩])
      (hbodies : t.bodies = s.bodies ++ [⟨authorization.lease, authorization.keys, some message⟩])
      (hleases : t.leases = s.leases)
  /-- A request is authorized. -/
  | authorized (id : ℕ) (lease : Lease) (keys : List String) (hlease : s.leases id = some lease)
      (hheld : ∀ key ∈ keys, key ∈ lease.heldKeys)
      (hauthorized : t.authorizedRequests =
        Function.update s.authorizedRequests s.nextMessage (some ⟨id, keys⟩))
      (hissued : t.issued = Function.update s.issued s.nextMessage (some ⟨id, keys⟩))
      (hnext : t.nextMessage = s.nextMessage + 1) (hentries : t.entries = s.entries)
      (hbodies : t.bodies = s.bodies)

/-- What an action does to the admission of acquisitions. -/
inductive AdmissionEffect (s : Coordinator) (t : Coordinator) : Prop
  /-- Nothing. -/
  | same (haccepting : t.acceptingAcquisitions = s.acceptingAcquisitions)
      (hdraining : t.draining = s.draining) (hdrained : t.drained = s.drained)
      (hpending : t.pendingAcquisitions = s.pendingAcquisitions) (hnext : t.nextLease = s.nextLease)
  | admitted (haccepted : s.acceptingAcquisitions = true)
      (haccepting : t.acceptingAcquisitions = s.acceptingAcquisitions)
      (hdraining : t.draining = s.draining) (hdrained : t.drained = s.drained)
      (hpending : t.pendingAcquisitions = insert s.nextLease s.pendingAcquisitions)
      (hnext : t.nextLease = s.nextLease + 1)
  /-- An acquisition that has settled is forgotten. -/
  | forgot (id : ℕ) (hsettled : ∀ lease, s.leases id = some lease → lease.phase ≠ .acquiring)
      (hleases : t.leases = s.leases)
      (haccepting : t.acceptingAcquisitions = s.acceptingAcquisitions)
      (hdraining : t.draining = s.draining) (hdrained : t.drained = s.drained)
      (hpending : t.pendingAcquisitions = s.pendingAcquisitions.erase id)
      (hnext : t.nextLease = s.nextLease)
  /-- Admission is closed. -/
  | closed (haccepting : t.acceptingAcquisitions = false) (hdraining : t.draining = true)
      (hdrained : t.drained = s.drained)
      (hpending : t.pendingAcquisitions = s.pendingAcquisitions) (hnext : t.nextLease = s.nextLease)
      (hactive : t.activeLeases = s.activeLeases)
  /-- The coordinator looks whether it is drained. -/
  | looked (hdraining : s.draining = true) (haccepting : t.acceptingAcquisitions = s.acceptingAcquisitions)
      (hdraining' : t.draining = s.draining)
      (hdrained : t.drained = decide (s.pendingAcquisitions = ∅ ∧ s.activeLeases = ∅))
      (hpending : t.pendingAcquisitions = s.pendingAcquisitions) (hnext : t.nextLease = s.nextLease)
      (hactive : t.activeLeases = s.activeLeases)

variable {s : Coordinator}

/-- Nothing of it, as long as the fields are the same. -/
private lemma effects_same {t : Coordinator} (hrecord : RecordEffect s t)
    (haccepting : t.acceptingAcquisitions = s.acceptingAcquisitions) (hdraining : t.draining = s.draining)
    (hdrained : t.drained = s.drained) (hpending : t.pendingAcquisitions = s.pendingAcquisitions)
    (hnext : t.nextLease = s.nextLease) : RecordEffect s t ∧ AdmissionEffect s t :=
  ⟨hrecord, .same haccepting hdraining hdrained hpending hnext⟩

/-- An acquisition leaves the records. -/
private lemma effects_acquire (scope : Option NormalScope) (exclusive : Bool) :
    RecordEffect s (acquire s scope exclusive) ∧ AdmissionEffect s (acquire s scope exclusive) := by
  unfold acquire
  split
  · rename_i haccepted
    cases scope <;> exact ⟨.same rfl rfl rfl rfl rfl, .admitted haccepted rfl rfl rfl rfl rfl⟩
  · exact effects_same (.same rfl rfl rfl rfl rfl) rfl rfl rfl rfl rfl

/-- A release changes the locks only. -/
private lemma release_frame (s : Coordinator) (id : ℕ) : ∃ queues leases activeLeases,
    release s id = { s with queues, leases, activeLeases } := by
  unfold release
  split
  · exact ⟨_, _, _, rfl⟩
  · split <;> exact ⟨_, _, _, rfl⟩

/-- An extension changes the locks only. -/
private lemma extend_frame (s : Coordinator) (id : ℕ) (scope : Scope) : ∃ queues leases,
    extend s id scope = { s with queues, leases } := by
  unfold extend
  split
  · split
    · split
      · exact ⟨_, _, rfl⟩
      · split <;> exact ⟨_, _, rfl⟩
    · exact ⟨_, _, rfl⟩
  · exact ⟨_, _, rfl⟩

/-- A loop that resumes changes the locks only. -/
private lemma resume_frame {s t : Coordinator} {id number : ℕ} (h : resume s id number = some t) :
    ∃ queues leases activeLeases, t = { s with queues, leases, activeLeases } := by
  unfold resume at h
  split at h
  · cases h
  · split at h
    · cases h
    · split_ifs at h
      rw [← Option.some.inj h]
      unfold proceed
      split
      · exact ⟨_, _, _, rfl⟩
      · split <;> exact ⟨_, _, _, rfl⟩

/-- The effect of an exclusive operation. -/
private lemma effects_runExclusive (scope : Scope) (messageId : Option ℕ) (isLocal : Bool) :
    RecordEffect s (runExclusive s scope messageId isLocal) ∧
      AdmissionEffect s (runExclusive s scope messageId isLocal) := by
  unfold runExclusive
  split
  · exact effects_same (.same rfl rfl rfl rfl rfl) rfl rfl rfl rfl rfl
  · rename_i normalized _
    split
    · exact effects_acquire _ _
    · rename_i message
      split
      · exact effects_same (.same rfl rfl rfl rfl rfl) rfl rfl rfl rfl rfl
      · split
        · exact effects_acquire _ _
        · rename_i authorization hsome
          split
          · rename_i hmatches
            obtain ⟨hlocal, hactive, hkeys⟩ := hmatches
            refine effects_same (.entered message authorization hsome hactive rfl rfl rfl ?_ ?_ ?_)
              rfl rfl rfl rfl rfl
            · rw [hkeys, hlocal, decide_eq_true hactive]
            · rw [hkeys]
            · rfl
          · exact effects_same (.spent message rfl rfl rfl rfl rfl) rfl rfl rfl rfl rfl

/-- **What an action does to the authorizations and the operations, and to the admission.** -/
theorem effects_of_step {s t : Coordinator} {a : Action} (h : step s a = some t) :
    RecordEffect s t ∧ AdmissionEffect s t := by
  cases a with
  | acquire scope =>
    rw [← Option.some.inj h]
    exact effects_acquire _ _
  | extend id scope =>
    simp only [step] at h
    split_ifs at h
    obtain ⟨_, _, hframe⟩ := extend_frame s id scope
    rw [← Option.some.inj h, hframe]
    exact effects_same (.same rfl rfl rfl rfl rfl) rfl rfl rfl rfl rfl
  | release id =>
    simp only [step] at h
    split_ifs at h
    obtain ⟨_, _, _, hframe⟩ := release_frame s id
    rw [← Option.some.inj h, hframe]
    exact effects_same (.same rfl rfl rfl rfl rfl) rfl rfl rfl rfl rfl
  | resume id number =>
    obtain ⟨_, _, _, rfl⟩ := resume_frame h
    exact effects_same (.same rfl rfl rfl rfl rfl) rfl rfl rfl rfl rfl
  | forget id =>
    simp only [step] at h
    split_ifs at h with hlegal
    rw [← Option.some.inj h]
    exact ⟨.same rfl rfl rfl rfl rfl, .forgot id hlegal.2 rfl rfl rfl rfl rfl rfl⟩
  | runExclusive scope messageId isLocal =>
    rw [← Option.some.inj h]
    exact effects_runExclusive _ _ _
  | operate id =>
    simp only [step, operate] at h
    split at h
    · cases h
    · rename_i lease hlease
      split_ifs at h with hlegal
      rw [← Option.some.inj h]
      exact effects_same (.operated id lease hlease hlegal.1 rfl rfl rfl rfl rfl rfl) rfl rfl rfl rfl rfl
  | settle body =>
    simp only [step, settle] at h
    split_ifs at h <;>
      (rw [← Option.some.inj h]
       exact effects_same (.settled body rfl rfl rfl rfl rfl) rfl rfl rfl rfl rfl)
  | unwind id =>
    simp only [step, unwind] at h
    split_ifs at h
    obtain ⟨_, _, _, hframe⟩ := release_frame { s with settledRuns := s.settledRuns.erase id } id
    rw [← Option.some.inj h, hframe]
    exact effects_same (.same rfl rfl rfl rfl rfl) rfl rfl rfl rfl rfl
  | authorize id scope =>
    simp only [step, authorize] at h
    split_ifs at h
    rw [← Option.some.inj h]
    split
    · rename_i lease normalized hlease _
      split
      · rename_i hlegal
        exact effects_same
          (.authorized id lease (scopeKeys normalized) hlease hlegal.2 rfl rfl rfl rfl rfl) rfl rfl rfl rfl rfl
      · exact effects_same (.same rfl rfl rfl rfl rfl) rfl rfl rfl rfl rfl
    · exact effects_same (.same rfl rfl rfl rfl rfl) rfl rfl rfl rfl rfl
  | conclude message =>
    simp only [step, conclude] at h
    split_ifs at h
    rw [← Option.some.inj h]
    exact effects_same (.spent message rfl rfl rfl rfl rfl) rfl rfl rfl rfl rfl
  | destroy =>
    rw [← Option.some.inj h]
    exact ⟨.same rfl rfl rfl rfl rfl, .closed rfl rfl rfl rfl rfl rfl⟩
  | drain =>
    simp only [step] at h
    split_ifs at h with hlegal
    rw [← Option.some.inj h]
    exact ⟨.same rfl rfl rfl rfl rfl, .looked hlegal.1 rfl rfl rfl rfl rfl rfl⟩

/-! ### One-shot authorizations -/

/-- An authorization lets in at most one operation; this one was local, was for exactly the authorized keys,
and found the authorizing lease active. -/
def OneShot (s : Coordinator) : Prop :=
  (s.entries.map Entry.message).Nodup ∧
    ∀ entry ∈ s.entries, s.issued entry.message = some ⟨entry.lease, entry.keys⟩ ∧
      entry.isLocal = true ∧ entry.isActive = true

/-- What carries `OneShot` along: open authorizations have been issued and have let in nothing, and numbers
of messages are new. -/
structure Spendable (s : Coordinator) : Prop where
  oneShot : OneShot s
  issued : ∀ message authorization, s.authorizedRequests message = some authorization →
    s.issued message = some authorization ∧ message < s.nextMessage ∧
      message ∉ s.entries.map Entry.message
  bound : ∀ entry ∈ s.entries, entry.message < s.nextMessage

/-- **Authorizations stay one-shot.** -/
theorem RecordEffect.spendable {s t : Coordinator} (h : RecordEffect s t) (hs : Spendable s) :
    Spendable t := by
  have hsame : t.issued = s.issued → t.nextMessage = s.nextMessage → t.entries = s.entries →
      (∀ message authorization, t.authorizedRequests message = some authorization →
        s.authorizedRequests message = some authorization) → Spendable t := by
    intro hissued hnext hentries hauthorized
    constructor
    · unfold OneShot
      rw [hentries, hissued]
      exact hs.oneShot
    · intro message authorization hsome
      rw [hissued, hnext, hentries]
      exact hs.issued message authorization (hauthorized message authorization hsome)
    · rw [hentries, hnext]
      exact hs.bound
  cases h with
  | same hauthorized hissued hnext hentries | operated id lease _ _ hauthorized hissued hnext hentries
  | settled body hauthorized hissued hnext hentries =>
    exact hsame hissued hnext hentries fun _ _ h => by rwa [hauthorized] at h
  | spent message hauthorized hissued hnext hentries =>
    refine hsame hissued hnext hentries fun other authorization h => ?_
    rw [hauthorized] at h
    by_cases hother : other = message
    · rw [hother, Function.update_self] at h
      cases h
    · rwa [Function.update_of_ne hother] at h
  | entered message authorization hsome hactive hauthorized hissued hnext hentries =>
    obtain ⟨hissue, hlt, hfresh⟩ := hs.issued message authorization hsome
    obtain ⟨hnodup, hentered⟩ := hs.oneShot
    constructor
    · constructor
      · rw [hentries, List.map_append, List.nodup_append]
        refine ⟨hnodup, List.nodup_singleton _, ?_⟩
        intro other hother last hlast heq
        obtain rfl : last = message := by simpa using hlast
        exact hfresh (heq ▸ hother)
      · intro entry hentry
        rw [hissued]
        rw [hentries, List.mem_append, List.mem_singleton] at hentry
        rcases hentry with hentry | rfl
        · exact hentered entry hentry
        · exact ⟨hissue, rfl, rfl⟩
    · intro other authorization' h
      rw [hauthorized] at h
      by_cases hother : other = message
      · rw [hother, Function.update_self] at h
        cases h
      · rw [Function.update_of_ne hother] at h
        obtain ⟨hissue', hlt', hfresh'⟩ := hs.issued other authorization' h
        rw [hissued, hnext, hentries, List.map_append, List.mem_append]
        refine ⟨hissue', hlt', fun hmem => hmem.elim hfresh' fun hlast => hother ?_⟩
        simpa using hlast
    · intro entry hentry
      rw [hentries, List.mem_append, List.mem_singleton] at hentry
      rw [hnext]
      rcases hentry with hentry | rfl
      · exact hs.bound entry hentry
      · exact hlt
  | authorized id lease keys _ _ hauthorized hissued hnext hentries =>
    constructor
    · refine ⟨by rw [hentries]; exact hs.oneShot.1, fun entry hentry => ?_⟩
      rw [hentries] at hentry
      have hlt := hs.bound entry hentry
      rw [hissued, Function.update_of_ne (Nat.ne_of_lt hlt)]
      exact hs.oneShot.2 entry hentry
    · intro other authorization' h
      rw [hauthorized] at h
      rw [hissued, hnext, hentries]
      by_cases hother : other = s.nextMessage
      · rw [hother, Function.update_self] at h ⊢
        refine ⟨h, Nat.lt_succ_self _, fun hmem => ?_⟩
        obtain ⟨entry, hentry, hmessage⟩ := List.mem_map.mp hmem
        exact absurd hmessage (Nat.ne_of_lt (hs.bound entry hentry))
      · rw [Function.update_of_ne hother] at h ⊢
        obtain ⟨hissue', hlt', hfresh'⟩ := hs.issued other authorization' h
        exact ⟨hissue', Nat.lt_succ_of_lt hlt', hfresh'⟩
    · intro entry hentry
      rw [hentries] at hentry
      rw [hnext]
      exact Nat.lt_succ_of_lt (hs.bound entry hentry)

end Makaio.Materialization
