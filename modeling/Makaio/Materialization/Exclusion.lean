import Makaio.Materialization.Locking
import Makaio.Materialization.Records

set_option autoImplicit false

/-!
# What the coordinator guarantees

No operation runs while another lease holds one of its keys, and what a lease has obtained is free after its
release, as long as no lease is released while an extension of it waits for a key or an operation runs under
it.  An extension that waits does not notice the release: it takes its key when its turn comes, and nobody
releases it.

## Main definitions

* `Exclusive`, `Freed`, `Acyclic`,
  `Drained` — the guarantees, with `OneShot`.
* `Orderly`, `SoleExtension` — what callers keep to.

## Main results

* `coordinator_guarantees` — the guarantees along all runs.
-/

namespace Makaio.Materialization

open Foundations

/-! ### Guarantees -/

/-- No operation runs while a lease other than the one it was handed holds a key of its scope. -/
def Exclusive (s : Coordinator) : Prop :=
  ∀ body ∈ s.bodies, ∀ key ∈ body.keys, ∀ id, Holds s id key → id = body.lease

/-- A released lease is in no queue, be it with a key it had obtained or with one it was waiting for, and
the first ticket of a queue holds its key or can take it. -/
def Freed (s : Coordinator) : Prop :=
  (∀ id lease, s.leases id = some lease → lease.phase = .released → ∀ key number,
    ⟨number, id⟩ ∉ s.queues.queue key) ∧
  ∀ key t, s.queues.IsFirst key t → Holds s t.owner key ∨ (step s (.resume t.owner t.number)).isSome

/-- An acquisition or an extension of a lease waits for a key with a ticket. -/
def Waits (s : Coordinator) (id : ℕ) (key : String) (number : ℕ) : Prop :=
  ∃ lease wait, s.leases id = some lease ∧ wait ∈ lease.waits ∧ wait.key = key ∧ wait.number = number

/-- No acquisitions and extensions wait in a circle. -/
def Acyclic (s : Coordinator) : Prop :=
  ∀ id, ¬Relation.TransGen (s.queues.WaitsFor (Waits s)) id id

/-- After the coordinator is drained no lease is active and no admitted acquisition is pending. -/
def Drained (s : Coordinator) : Prop :=
  s.drained = true → s.activeLeases = ∅ ∧ s.pendingAcquisitions = ∅ ∧
    ∀ id lease, s.leases id = some lease → lease.phase = .released

/-- No lease is released while an extension of it waits for a key or an operation runs under it. -/
def Orderly (s : Coordinator) : Action → Prop
  | .release id | .unwind id => ∀ lease ∈ s.leases id, lease.phase = .active →
      lease.waits = [] ∧ ∀ body ∈ s.bodies, body.lease ≠ id
  | _ => True

instance (s : Coordinator) (a : Action) : Decidable (Orderly s a) := by
  cases a <;> unfold Orderly <;> infer_instance

/-- A lease is extended by one caller at a time. -/
def SoleExtension (s : Coordinator) : Action → Prop
  | .extend id _ => ∀ lease ∈ s.leases id, lease.waits = []
  | _ => True

/-- The states reached by runs whose actions satisfy a condition. -/
def Reached (ok : Coordinator → Action → Prop) (s : Coordinator) : Prop :=
  Reach (fun s => s = initial) step ok s

/-! ### All runs -/

/-- What holds along every run. -/
structure Coherent (s : Coordinator) : Prop where
  tickets : Tickets s.queues s.leases
  fresh : ∀ id, s.nextLease ≤ id → s.leases id = none
  staged : AllLeases Staged s
  active : ActiveLeases s
  spendable : Spendable s
  pending : ∀ id lease, s.leases id = some lease → lease.phase = .acquiring →
    id ∈ s.pendingAcquisitions
  authorized : ∀ message authorization, s.authorizedRequests message = some authorization →
    ∃ lease, s.leases authorization.lease = some lease ∧ ∀ key ∈ authorization.keys, key ∈ lease.heldKeys
  closed : s.draining = true → s.acceptingAcquisitions = false
  drained : s.drained = true →
    s.draining = true ∧ s.pendingAcquisitions = ∅ ∧ s.activeLeases = ∅

variable {a : Action} {s : Coordinator}
variable {id : ℕ} {lease : Lease} {t : Coordinator}

/-- An acquisition that is still under way was so before, or is new. -/
lemma LockEffect.acquiring {s : Coordinator} (h : LockEffect s a t) (hlease : t.leases id = some lease)
    (hphase : lease.phase = .acquiring) :
    (∃ old, s.leases id = some old ∧ old.phase = .acquiring) ∨ id ∈ t.pendingAcquisitions := by
  have hupdate : ∀ other changed changed', s.leases other = some changed →
      t.leases = Function.update s.leases other (some changed') →
      (changed'.phase = .acquiring → changed.phase = .acquiring) →
      ∃ old, s.leases id = some old ∧ old.phase = .acquiring := by
    intro other changed changed' hchanged hleases hback
    rw [hleases] at hlease
    by_cases hid : id = other
    · rw [hid, Function.update_self] at hlease
      exact ⟨changed, by rw [hid]; exact hchanged, hback (by rw [Option.some.inj hlease]; exact hphase)⟩
    · rw [Function.update_of_ne hid] at hlease
      exact ⟨lease, hlease, hphase⟩
  cases h with
  | none _ hleases =>
    rw [hleases] at hlease
    exact .inl ⟨lease, hlease, hphase⟩
  | created scope exclusive _ hleases _ _ hpending =>
    rw [hleases] at hlease
    by_cases hid : id = s.nextLease
    · exact .inr (hid ▸ hpending)
    · rw [Function.update_of_ne hid] at hlease
      exact .inl ⟨lease, hlease, hphase⟩
  | extended other changed scope key rest hchanged _ _ _ _ _ _ hleases
  | obtained other changed wait key rest hchanged _ _ _ _ hleases =>
    exact .inl (hupdate other changed _ hchanged hleases fun h => h)
  | acquired other changed wait hchanged _ _ _ _ _ hleases =>
    exact .inl (hupdate other changed _ hchanged hleases fun h => by cases h)
  | completed other changed wait hchanged _ _ _ _ _ hleases =>
    exact .inl (hupdate other changed _ hchanged hleases fun h => h)
  | released other changed hchanged _ _ _ hleases =>
    exact .inl (hupdate other changed _ hchanged hleases fun h => by cases h)
  | handed other changed hchanged _ _ hleases =>
    exact .inl (hupdate other changed _ hchanged hleases fun h => h)

/-- The active leases of a coordinator without pending acquisitions only become fewer. -/
lemma LockEffect.active_eq_empty {s : Coordinator} (h : LockEffect s a t) (hs : Coherent s)
    (hpending : s.pendingAcquisitions = ∅) (hactive : s.activeLeases = ∅) :
    t.activeLeases = ∅ := by
  cases h with
  | acquired id lease wait hlease _ _ _ hphase =>
    have hmem := hs.pending id lease hlease hphase
    rw [hpending] at hmem
    cases hmem
  | released id lease _ _ _ _ _ heq => rw [heq, hactive, Finset.erase_empty]
  | none _ _ heq | created _ _ _ _ heq | extended _ _ _ _ _ _ _ _ _ _ _ _ _ heq
  | obtained _ _ _ _ _ _ _ _ _ _ _ heq | completed _ _ _ _ _ _ _ _ _ _ heq | handed _ _ _ _ _ _ heq =>
    rw [heq, hactive]

/-- The initial state is coherent. -/
lemma coherent_initial : Coherent initial where
  tickets := tickets_empty
  fresh _ _ := rfl
  staged id lease h := by cases h
  active id := by simp [initial]
  spendable :=
    { oneShot := ⟨.nil, by simp [initial]⟩
      issued := by
        intro message authorization h
        cases h
      bound := by simp [initial] }
  pending id lease h := by cases h
  authorized message authorization h := by cases h
  closed h := by cases h
  drained h := by cases h

/-- Numbers of leases are given out in their order. -/
lemma AdmissionEffect.nextLease_le {s : Coordinator} (h : AdmissionEffect s t) :
    s.nextLease ≤ t.nextLease := by
  cases h with
  | same _ _ _ _ hnext => exact hnext.ge
  | admitted _ _ _ _ _ hnext => omega
  | forgot _ _ _ _ _ _ _ hnext | closed _ _ _ _ hnext | looked _ _ _ _ _ hnext => exact hnext.ge

/-- **Every action keeps the state coherent.** -/
theorem Coherent.step {s : Coordinator} (hs : Coherent s) (h : Materialization.step s a = some t) :
    Coherent t := by
  have hlock := lockEffect_of_step h
  obtain ⟨hrecord, hadmission⟩ := effects_of_step h
  have hnew := hs.fresh s.nextLease le_rfl
  have hkept : ∀ (authorization : Authorization) (lease : Lease),
      s.leases authorization.lease = some lease → (∀ key ∈ authorization.keys, key ∈ lease.heldKeys) →
      ∃ lease, t.leases authorization.lease = some lease ∧
        ∀ key ∈ authorization.keys, key ∈ lease.heldKeys := by
    intro authorization lease hlease hheld
    obtain ⟨lease', hlease', -, hmono, -⟩ := hlock.kept hnew hlease
    exact ⟨lease', hlease', fun key hkey => hmono key (hheld key hkey)⟩
  constructor
  · exact hlock.tickets hs.tickets hnew
  · exact hlock.fresh hs.fresh hadmission.nextLease_le
  · exact hlock.staged hs.staged
  · exact hlock.active hs.active hnew
  · exact hrecord.spendable hs.spendable
  · intro id lease hlease hphase
    rcases hlock.acquiring hlease hphase with ⟨old, hold, hacquiring⟩ | hmem
    · have hmem := hs.pending id old hold hacquiring
      cases hadmission with
      | same _ _ _ hpending => rwa [hpending]
      | admitted _ _ _ _ hpending => rw [hpending]; exact Finset.mem_insert_of_mem hmem
      | forgot other hsettled _ _ _ _ hpending =>
        rw [hpending]
        refine Finset.mem_erase.mpr ⟨?_, hmem⟩
        rintro rfl
        exact hsettled old hold hacquiring
      | closed _ _ _ hpending | looked _ _ _ _ hpending => rwa [hpending]
    · exact hmem
  · intro message authorization hsome
    have hold : ∀ other authorization, s.authorizedRequests other = some authorization →
        ∃ lease, t.leases authorization.lease = some lease ∧
          ∀ key ∈ authorization.keys, key ∈ lease.heldKeys := by
      intro other authorization hsome
      obtain ⟨lease, hlease, hheld⟩ := hs.authorized other authorization hsome
      exact hkept authorization lease hlease hheld
    have hdropped : ∀ dropped, t.authorizedRequests =
        Function.update s.authorizedRequests dropped none →
        s.authorizedRequests message = some authorization := by
      intro dropped hauthorized
      rw [hauthorized] at hsome
      by_cases hmessage : message = dropped
      · rw [hmessage, Function.update_self] at hsome
        cases hsome
      · rwa [Function.update_of_ne hmessage] at hsome
    cases hrecord with
    | same hauthorized | operated _ _ _ _ hauthorized | settled _ hauthorized =>
      exact hold message authorization (by rwa [← hauthorized])
    | spent _ hauthorized | entered _ _ _ _ hauthorized =>
      exact hold message authorization (hdropped _ hauthorized)
    | authorized id lease keys hlease hheld hauthorized =>
      rw [hauthorized] at hsome
      by_cases hmessage : message = s.nextMessage
      · rw [hmessage, Function.update_self] at hsome
        rw [← Option.some.inj hsome]
        exact hkept ⟨id, keys⟩ lease hlease hheld
      · rw [Function.update_of_ne hmessage] at hsome
        exact hold message authorization hsome
  · intro hdraining
    cases hadmission with
    | same haccepting hdraining' | admitted _ haccepting hdraining' | forgot _ _ _ haccepting hdraining' =>
      rw [haccepting]; exact hs.closed (by rwa [← hdraining'])
    | closed haccepting => exact haccepting
    | looked _ haccepting hdraining' => rw [haccepting]; exact hs.closed (by rwa [← hdraining'])
  · intro hdrained
    cases hadmission with
    | same _ hdraining hdrained' hpending =>
      obtain ⟨hd, hp, ha⟩ := hs.drained (by rwa [← hdrained'])
      exact ⟨by rwa [hdraining], by rwa [hpending], hlock.active_eq_empty hs hp ha⟩
    | admitted haccepted _ _ hdrained' =>
      obtain ⟨hd, -⟩ := hs.drained (by rwa [← hdrained'])
      rw [hs.closed hd] at haccepted
      cases haccepted
    | forgot _ _ _ _ hdraining hdrained' hpending =>
      obtain ⟨hd, hp, ha⟩ := hs.drained (by rwa [← hdrained'])
      exact ⟨by rwa [hdraining], by rw [hpending, hp, Finset.erase_empty],
        hlock.active_eq_empty hs hp ha⟩
    | closed _ hdraining hdrained' hpending _ hactive =>
      obtain ⟨-, hp, ha⟩ := hs.drained (by rwa [← hdrained'])
      exact ⟨hdraining, by rwa [hpending], by rwa [hactive]⟩
    | looked hdraining _ hdraining' hdecide hpending _ hactive =>
      rw [hdecide] at hdrained
      obtain ⟨hp, ha⟩ := of_decide_eq_true hdrained
      exact ⟨by rw [hdraining', hdraining], by rw [hpending, hp], by rw [hactive, ha]⟩

/-- **The state is coherent along every run.** -/
theorem coherent_of_reached {ok : Coordinator → Action → Prop} (hs : Reached ok s) : Coherent s :=
  hs.invariant Coherent (fun s (h : s = initial) => h ▸ coherent_initial) fun _ _ _ hs _ h => hs.step h

/-! ### Orderly runs -/

/-- What holds along orderly runs. -/
structure Tidy (s : Coordinator) : Prop where
  coherent : Coherent s
  /-- Operations run under active leases that hold their keys. -/
  bodies : ∀ body ∈ s.bodies, ∃ lease, s.leases body.lease = some lease ∧ lease.phase = .active ∧
    ∀ key ∈ body.keys, key ∈ lease.heldKeys
  /-- Released leases wait for nothing and are in no queue. -/
  gone : ∀ id lease, s.leases id = some lease → lease.phase = .released →
    lease.waits = [] ∧ ∀ key number, ⟨number, id⟩ ∉ s.queues.queue key

/-- A released lease has left the queues after an orderly action. -/
lemma Tidy.gone_step {s : Coordinator} (hs : Tidy s) (hok : Orderly s a) (h : LockEffect s a t)
    (hlease : t.leases id = some lease) (hphase : lease.phase = .released) :
    lease.waits = [] ∧ ∀ key number, ⟨number, id⟩ ∉ t.queues.queue key := by
  have hrequest : ∀ key other, t.queues = s.queues.request key other → id ≠ other →
      s.leases id = some lease → lease.waits = [] ∧ ∀ key number, ⟨number, id⟩ ∉ t.queues.queue key := by
    intro key other hqueues hne hold
    obtain ⟨hwaits, hgone⟩ := hs.gone id lease hold hphase
    refine ⟨hwaits, fun key' number hmem => ?_⟩
    rw [hqueues] at hmem
    rcases LockQueues.mem_request.mp hmem with hmem | ⟨-, heq⟩
    · exact hgone key' number hmem
    · exact hne (congrArg Ticket.owner heq)
  have hnone : t.queues = s.queues → s.leases id = some lease →
      lease.waits = [] ∧ ∀ key number, ⟨number, id⟩ ∉ t.queues.queue key := by
    intro hqueues hold
    rw [hqueues]
    exact hs.gone id lease hold hphase
  have hsplit : ∀ {other : ℕ} {changed : Lease},
      t.leases = Function.update s.leases other (some changed) →
      id = other ∧ lease = changed ∨ id ≠ other ∧ s.leases id = some lease := by
    intro other changed hleases
    rw [hleases] at hlease
    by_cases hid : id = other
    · rw [hid, Function.update_self] at hlease
      exact .inl ⟨hid, (Option.some.inj hlease).symm⟩
    · rw [Function.update_of_ne hid] at hlease
      exact .inr ⟨hid, hlease⟩
  have hwaiting : ∀ {other : ℕ} {old : Lease} {wait : Wait}, s.leases other = some old →
      wait ∈ old.waits → old.phase ≠ .released := by
    intro other old wait hold hwait hreleased
    rw [(hs.gone other old hold hreleased).1] at hwait
    cases hwait
  cases h with
  | none hqueues hleases =>
    rw [hleases] at hlease
    exact hnone hqueues hlease
  | created scope exclusive hqueues hleases =>
    rcases hsplit hleases with ⟨-, rfl⟩ | ⟨hne, hold⟩
    · cases hphase
    · exact hrequest _ _ hqueues hne hold
  | extended other old scope key rest _ hactive _ _ _ _ hqueues hleases =>
    rcases hsplit hleases with ⟨-, rfl⟩ | ⟨hne, hold⟩
    · rw [Lease.waiting, hactive] at hphase
      cases hphase
    · exact hrequest _ _ hqueues hne hold
  | obtained other old wait key rest hold hwait _ _ hqueues hleases =>
    rcases hsplit hleases with ⟨-, rfl⟩ | ⟨hne, hold⟩
    · have hactive := hwaiting hold hwait
      exact absurd hphase hactive
    · exact hrequest _ _ hqueues hne hold
  | acquired other old wait _ _ _ _ _ hqueues hleases =>
    rcases hsplit hleases with ⟨-, rfl⟩ | ⟨-, hold⟩
    · cases hphase
    · exact hnone hqueues hold
  | completed other old wait hold hwait _ _ _ hqueues hleases =>
    rcases hsplit hleases with ⟨-, rfl⟩ | ⟨-, hold⟩
    · have hactive := hwaiting hold hwait
      exact absurd hphase hactive
    · exact hnone hqueues hold
  | released other old hold hactive haction hqueues hleases =>
    have horderly : old.waits = [] := by
      rcases haction with rfl | rfl <;> exact (hok old hold hactive).1
    rcases hsplit hleases with ⟨rfl, rfl⟩ | ⟨-, hother⟩
    · refine ⟨horderly, fun key number hmem => ?_⟩
      rw [hqueues] at hmem
      obtain ⟨rest, hwait⟩ := waits_of_release hs.coherent.tickets hold hmem
      rw [horderly] at hwait
      cases hwait
    · obtain ⟨hwaits, hgone⟩ := hs.gone id lease hother hphase
      refine ⟨hwaits, fun key number hmem => hgone key number ?_⟩
      rw [hqueues] at hmem
      exact (LockQueues.mem_release.mp hmem).1
  | handed other old _ hactive hqueues hleases =>
    rcases hsplit hleases with ⟨-, rfl⟩ | ⟨-, hold⟩
    · rw [hactive] at hphase
      cases hphase
    · exact hnone hqueues hold

/-- **Orderly actions keep the state tidy.** -/
theorem Tidy.step {s : Coordinator} (hs : Tidy s) (hok : Orderly s a) (h : Materialization.step s a = some t) :
    Tidy t := by
  have hlock := lockEffect_of_step h
  have hnew := hs.coherent.fresh s.nextLease le_rfl
  refine ⟨hs.coherent.step h, ?_, fun id lease => hs.gone_step hok hlock⟩
  have hold : ∀ body ∈ s.bodies, ∃ lease, t.leases body.lease = some lease ∧ lease.phase = .active ∧
      ∀ key ∈ body.keys, key ∈ lease.heldKeys := by
    intro body hbody
    obtain ⟨lease, hlease, hactive, hheld⟩ := hs.bodies body hbody
    obtain ⟨lease', hlease', -, hmono, hphase⟩ := hlock.kept hnew hlease
    refine ⟨lease', hlease', ?_, fun key hkey => hmono key (hheld key hkey)⟩
    rcases hphase hactive with hphase | rfl | rfl
    · exact hphase
    · exact absurd rfl ((hok lease hlease hactive).2 body hbody)
    · exact absurd rfl ((hok lease hlease hactive).2 body hbody)
  intro body hbody
  cases (effects_of_step h).1 with
  | same _ _ _ _ hbodies => exact hold body (by rwa [← hbodies])
  | operated id lease hlease hactive _ _ _ _ hbodies hleases =>
    rw [hbodies, List.mem_append, List.mem_singleton] at hbody
    rcases hbody with hbody | rfl
    · exact hold body hbody
    · refine ⟨{ lease with handed := true }, by rw [hleases]; exact Function.update_self .., hactive, ?_⟩
      exact (hs.coherent.staged id lease hlease).scope (by rw [hactive]; decide)
  | settled _ _ _ _ _ hbodies =>
    rw [hbodies] at hbody
    exact hold body (List.mem_of_mem_erase hbody)
  | spent _ _ _ _ _ hbodies => exact hold body (by rwa [← hbodies])
  | entered message authorization hsome hactive _ _ _ _ hbodies hleases =>
    rw [hbodies, List.mem_append, List.mem_singleton] at hbody
    rcases hbody with hbody | rfl
    · exact hold body hbody
    · obtain ⟨lease, hlease, hphase⟩ := (hs.coherent.active authorization.lease).mp hactive
      obtain ⟨lease', hlease', hheld⟩ := hs.coherent.authorized message authorization hsome
      cases hlease.symm.trans hlease'
      exact ⟨lease, by rw [hleases]; exact hlease, hphase, hheld⟩
  | authorized _ _ _ _ _ _ _ _ _ hbodies => exact hold body (by rwa [← hbodies])

/-- **The state is tidy along orderly runs.** -/
theorem tidy_of_reached (hs : Reached Orderly s) : Tidy s := by
  refine hs.invariant Tidy ?_ fun _ _ _ hs hok h => hs.step hok h
  rintro s rfl
  exact ⟨coherent_initial, by simp [initial], fun id lease h => by cases h⟩

/-- In a tidy state no operation runs while another lease holds one of its keys. -/
lemma Tidy.exclusive (hs : Tidy s) : Exclusive s := by
  intro body hbody key hkey id hid
  obtain ⟨lease, hlease, hactive, hheld⟩ := hs.bodies body hbody
  have hown := holds_of_mem hs.coherent.tickets hlease (by rw [hactive]; decide) (hheld key hkey)
  exact holds_unique hs.coherent.tickets hid hown

/-- The first ticket of a queue holds its key or can take it. -/
lemma Coherent.first_moves (hs : Coherent s) {key : String} {t : Ticket ℕ} (hfirst : s.queues.IsFirst key t) :
    Holds s t.owner key ∨ (Materialization.step s (.resume t.owner t.number)).isSome := by
  obtain ⟨lease, hlease⟩ := hs.tickets.owner key t hfirst.mem
  have hfits := hs.tickets.fits t.owner lease hlease
  rcases hfits.owned key t.number hfirst.mem with ⟨rest, hwait⟩ | hnumber
  · refine .inr ?_
    obtain ⟨wait, hfind⟩ := Option.isSome_iff_exists.mp
      (List.find?_isSome (p := fun wait : Wait => decide (wait.number = t.number)).mpr
        ⟨_, hwait, by simp⟩)
    have hwaitNumber : wait.number = t.number := by simpa using List.find?_some hfind
    have hwaitQueued := (hfits.queued wait (List.mem_of_find?_eq_some hfind)).1
    have hkey : wait.key = key := s.queues.distinct _ _ _ hwaitQueued _ hfirst.mem hwaitNumber
    have hhead : (s.queues.queue wait.key).head? = some ⟨t.number, t.owner⟩ := by
      rw [hkey]
      exact hfirst
    simp [Materialization.step, resume, hlease, hfind, hhead]
  · exact .inl ⟨lease, t.number, hlease, hnumber, hfirst.mem⟩

/-- In a tidy state what was released is free. -/
lemma Tidy.freed (hs : Tidy s) : Freed s :=
  ⟨fun id lease hlease hphase => (hs.gone id lease hlease hphase).2,
    fun _ _ hfirst => hs.coherent.first_moves hfirst⟩

/-- A drained coordinator has no active leases and no acquisitions. -/
lemma Coherent.drained_leases (hs : Coherent s) : Drained s := by
  intro hdrained
  obtain ⟨-, hpending, hactive⟩ := hs.drained hdrained
  refine ⟨hactive, hpending, fun id lease hlease => ?_⟩
  cases hphase : lease.phase with
  | released => rfl
  | acquiring =>
    have hmem := hs.pending id lease hlease hphase
    rw [hpending] at hmem
    cases hmem
  | active =>
    have hmem := (hs.active id).mpr ⟨lease, hlease, hphase⟩
    rw [hactive] at hmem
    cases hmem

/-! ### Sole extensions -/

/-- A lease takes its keys in order. -/
structure InOrder (lease : Lease) : Prop where
  /-- One loop at a time takes keys. -/
  single : ∀ wait ∈ lease.waits, lease.waits = [wait]
  /-- The keys that are held, and those that are to be taken, are in order. -/
  sorted : lease.heldKeys.Pairwise Precedes
  next : ∀ wait ∈ lease.waits, (lease.heldKeys ++ wait.key :: wait.rest).Pairwise Precedes
  /-- The keys are that of the artifact and those of objects. -/
  keys : ∀ key, (key ∈ lease.heldKeys ∨ ∃ wait ∈ lease.waits, key ∈ wait.key :: wait.rest) →
    key = artifactKey lease.scope.artifactId ∨ isProviderKey key = true

/-- The keys of an extension come after the held ones. -/
lemma precedes_of_extension {scope : NormalScope} {keys : List String}
    (hsorted : lease.heldKeys.Pairwise Precedes)
    (hheld : ∀ key ∈ lease.heldKeys, key = artifactKey lease.scope.artifactId ∨ isProviderKey key = true)
    (hartifact : artifactKey scope.artifactId ∈ lease.heldKeys)
    (hkeys : ((scopeKeys scope).filter fun key => key ∉ lease.heldKeys) = keys)
    (hordering : violatesOrdering lease.heldKeys keys = false) :
    ∀ held ∈ lease.heldKeys, ∀ key ∈ keys, Precedes held key ∧ isProviderKey key = true := by
  intro held hmem key hkey
  obtain ⟨hscope, hnew⟩ : key ∈ scopeKeys scope ∧ key ∉ lease.heldKeys := by
    rw [← hkeys] at hkey
    simpa using hkey
  have hprovider : isProviderKey key = true := by
    rcases List.mem_cons.mp hscope with rfl | hobject
    · exact absurd hartifact hnew
    · exact scope.isProviderKey_of_mem key hobject
  refine ⟨?_, hprovider⟩
  rcases hheld held hmem with rfl | hheldProvider
  · exact artifactKey_precedes _ hprovider
  · have hfiltered : held ∈ lease.heldKeys.filter isProviderKey :=
      List.mem_filter.mpr ⟨hmem, hheldProvider⟩
    obtain ⟨front, last, hlast⟩ : ∃ front last, lease.heldKeys.filter isProviderKey = front ++ [last] :=
      (List.eq_nil_or_concat' _).resolve_left (List.ne_nil_of_mem hfiltered)
    have hlastMem : last ∈ lease.heldKeys := by
      have hmem : last ∈ lease.heldKeys.filter isProviderKey := by rw [hlast]; simp
      exact (List.mem_filter.mp hmem).1
    have hafter : Precedes last key := by
      refine precedes_of_not (fun hcon => ?_) fun heq => hnew (heq ▸ hlastMem)
      rw [violatesOrdering, hlast, List.getLast?_concat] at hordering
      rw [List.any_eq_false] at hordering
      exact hordering key hkey (decide_eq_true hcon)
    have hfilteredSorted : (front ++ [last]).Pairwise Precedes := hlast ▸ hsorted.filter _
    rw [hlast, List.mem_append, List.mem_singleton] at hfiltered
    rcases hfiltered with hfront | rfl
    · exact ((List.pairwise_append.mp hfilteredSorted).2.2 held hfront last (by simp)).trans hafter
    · exact hafter

/-- A key is taken in order. -/
lemma InOrder.holding (h : InOrder lease) {wait : Wait} (hwait : wait ∈ lease.waits) :
    InOrder (lease.holding wait) := by
  have hwaits := waits_holding (h.single wait hwait)
  have hheld := heldKeys_holding (h.next wait hwait)
  constructor
  · rw [hwaits]
    simp
  · rw [hheld]
    have hsplit : ((lease.heldKeys ++ [wait.key]) ++ wait.rest).Pairwise Precedes := by
      simpa using h.next wait hwait
    exact (List.pairwise_append.mp hsplit).1
  · rw [hwaits]
    simp
  · rintro key (hkey | ⟨other, hother, -⟩)
    · rcases mem_holding.mp hkey with hkey | rfl
      · exact h.keys key (.inl hkey)
      · exact h.keys _ (.inr ⟨wait, hwait, List.mem_cons_self⟩)
    · rw [hwaits] at hother
      cases hother

/-- **Leases take their keys in order** when they are extended by one caller at a time. -/
theorem inOrder_step {s : Coordinator} (hs : AllLeases InOrder s) (hcoherent : Coherent s)
    (hok : SoleExtension s a) (h : LockEffect s a t) : AllLeases InOrder t := by
  cases h with
  | none _ hleases =>
    unfold AllLeases
    rw [hleases]
    exact hs
  | created scope exclusive _ hleases =>
    refine hs.update hleases ⟨?_, .nil, ?_, ?_⟩
    · intro wait hwait
      rw [List.mem_singleton.mp hwait]
      rfl
    · intro wait hwait
      rw [List.mem_singleton.mp hwait]
      exact scopeKeys_sorted scope
    · rintro key (hkey | ⟨wait, hwait, hkey⟩)
      · cases hkey
      · rw [List.mem_singleton.mp hwait] at hkey
        rcases List.mem_cons.mp hkey with rfl | hkey
        · exact .inl rfl
        · exact .inr (scope.isProviderKey_of_mem key hkey)
  | extended id lease scope key rest hlease hphase hartifact hkeys hordering haction _ hleases =>
    have hwaits : lease.waits = [] := by
      obtain ⟨scope', rfl⟩ := haction
      exact hok lease hlease
    have hin := hs id lease hlease
    have hheld : artifactKey scope.artifactId ∈ lease.heldKeys := by
      rw [hartifact]
      exact (hcoherent.staged id lease hlease).scope (by rw [hphase]; decide) _ List.mem_cons_self
    have hnew := precedes_of_extension hin.sorted (fun key hkey => hin.keys key (.inl hkey)) hheld hkeys
      hordering
    have hmem : ∀ wait ∈ (lease.waiting ⟨s.queues.next, key, rest⟩).waits,
        wait = ⟨s.queues.next, key, rest⟩ := by
      intro wait hwait
      rw [Lease.waiting, hwaits] at hwait
      exact List.mem_singleton.mp hwait
    refine hs.update hleases ⟨?_, hin.sorted, ?_, ?_⟩
    · intro wait hwait
      rw [hmem wait hwait, Lease.waiting, hwaits]
      rfl
    · intro wait hwait
      rw [hmem wait hwait, List.pairwise_append]
      refine ⟨hin.sorted, ?_, fun held hheld key' hkey' => (hnew held hheld key' hkey').1⟩
      rw [← hkeys]
      exact (scopeKeys_sorted scope).filter _
    · rintro key' (hkey' | ⟨wait, hwait, hkey'⟩)
      · exact hin.keys key' (.inl hkey')
      · rw [hmem wait hwait] at hkey'
        exact .inr (hnew _ hheld key' hkey').2
  | obtained id lease wait key rest hlease hwait _ hrest _ hleases =>
    have hin := hs id lease hlease
    have hholding := hin.holding hwait
    have hwaits := waits_holding (hin.single wait hwait)
    have hheld := heldKeys_holding (hin.next wait hwait)
    have hmem : ∀ other ∈ ((lease.holding wait).waiting ⟨s.queues.next, key, rest⟩).waits,
        other = ⟨s.queues.next, key, rest⟩ := by
      intro other hother
      rw [Lease.waiting, hwaits] at hother
      exact List.mem_singleton.mp hother
    have hnext : ((lease.heldKeys ++ [wait.key]) ++ key :: rest).Pairwise Precedes := by
      rw [List.append_assoc, List.singleton_append, ← hrest]
      exact hin.next wait hwait
    refine hs.update hleases ⟨?_, hholding.sorted, ?_, ?_⟩
    · intro other hother
      rw [hmem other hother, Lease.waiting, hwaits]
      rfl
    · intro other hother
      rw [hmem other hother, Lease.waiting]
      rw [hheld]
      exact hnext
    · rintro key' (hkey' | ⟨other, hother, hkey'⟩)
      · exact hholding.keys key' (.inl hkey')
      · rw [hmem other hother] at hkey'
        exact hin.keys key' (.inr ⟨wait, hwait, List.mem_cons_of_mem _ (hrest ▸ hkey')⟩)
  | acquired id lease wait hlease hwait _ _ _ _ hleases =>
    have hin := (hs id lease hlease).holding hwait
    exact hs.update hleases ⟨hin.single, hin.sorted, hin.next, hin.keys⟩
  | completed id lease wait hlease hwait _ _ _ _ hleases =>
    exact hs.update hleases ((hs id lease hlease).holding hwait)
  | released id lease hlease _ _ _ hleases | handed id lease hlease _ _ hleases =>
    have hin := hs id lease hlease
    exact hs.update hleases ⟨hin.single, hin.sorted, hin.next, hin.keys⟩

/-- Leases take their keys in order along runs in which they are extended by one caller at a time. -/
theorem inOrder_of_reached (hs : Reached SoleExtension s) : AllLeases InOrder s := by
  have hboth : Coherent s ∧ AllLeases InOrder s := by
    refine hs.invariant (fun s => Coherent s ∧ AllLeases InOrder s) ?_ ?_
    · rintro s rfl
      exact ⟨coherent_initial, fun id lease h => by cases h⟩
    · intro s a t hs hok h
      exact ⟨hs.1.step h, inOrder_step hs.2 hs.1 hok (lockEffect_of_step h)⟩
  exact hboth.2

/-- Leases that take their keys in order do not wait in a circle. -/
lemma acyclic_of_inOrder (hs : Coherent s) (horder : AllLeases InOrder s) : Acyclic s := by
  refine s.queues.not_transGen_waitsFor
    (fun a b c (hab : Precedes a b) (hbc : Precedes b c) => hab.trans hbc) not_precedes_self ?_ ?_
  · rintro id key number ⟨lease, wait, hlease, hwait, rfl, rfl⟩
    exact ((hs.tickets.fits id lease hlease).queued wait hwait).1
  · rintro id key number ⟨lease, wait, hlease, hwait, rfl, rfl⟩ key' t ht rfl
    have hin := horder t.owner lease hlease
    rcases (hs.tickets.fits t.owner lease hlease).owned key' t.number ht with ⟨rest, hother⟩ | hnumber
    · rw [hin.single wait hwait, List.mem_singleton] at hother
      rw [← hother]
      exact .inl ⟨rfl, rfl⟩
    · have hheld := ((hs.tickets.fits t.owner lease hlease).held key').mpr ⟨_, hnumber⟩
      exact .inr ((List.pairwise_append.mp (hin.next wait hwait)).2.2 key' hheld _ List.mem_cons_self)

/-! ### All guarantees -/

/-- **What the coordinator guarantees.**  Along orderly runs no operation runs while another lease holds a
key of its scope, and what a lease has obtained or waited for is free once it is released.  Along all runs an
authorization lets in at most one operation, which is local and asks for exactly the authorized scope while
the authorizing lease is active, and a drained coordinator has no leases and no acquisitions.  If every lease
is extended by one caller at a time, nobody waits in a circle.

**Proof sketch.** Every ticket in a queue is that of a lease which waits with it or holds its key, and only
first tickets hold.  Along orderly runs a released lease has no tickets, and operations run under active
leases.  Leases that take their keys in order wait for keys beyond those they hold. -/
theorem coordinator_guarantees (s : Coordinator) :
    (Reached Orderly s → Exclusive s ∧ Freed s) ∧
    (Reached (fun _ _ => True) s → OneShot s ∧ Drained s) ∧
    (Reached SoleExtension s → Acyclic s) := by
  refine ⟨fun hs => ?_, fun hs => ?_, fun hs => ?_⟩
  · have htidy := tidy_of_reached hs
    exact ⟨htidy.exclusive, htidy.freed⟩
  · have hcoherent := coherent_of_reached hs
    exact ⟨hcoherent.spendable.oneShot, hcoherent.drained_leases⟩
  · exact acyclic_of_inOrder (coherent_of_reached hs) (inOrder_of_reached hs)

/-- While an operation runs, its lease is extended by a key that another lease holds until it is released, and
a third lease waits for the key of the operation. -/
def operation : List Action :=
  [.acquire ⟨"b", [⟨"p", "1"⟩]⟩, .resume 0 0, .resume 0 1, .runExclusive ⟨"a", []⟩ none true, .resume 1 2,
    .operate 1, .extend 1 ⟨"a", [⟨"p", "1"⟩]⟩, .acquire ⟨"a", []⟩, .release 0, .resume 1 3]

/-- The guarantees hold while the operation runs. -/
theorem coordinator_guarantees_operation :
    ∃ s, runGuarded step Orderly initial operation = some s ∧ Exclusive s ∧ Freed s := by
  obtain ⟨s, hs⟩ := Option.isSome_iff_exists.mp
    (show (runGuarded step Orderly initial operation).isSome = true by decide +kernel)
  exact ⟨s, hs, (coordinator_guarantees s).1 (Reach.of_runGuarded operation (.start rfl) hs)⟩

/-- A lease is released while an extension of it waits for a key that another lease holds. -/
def releasedExtension : List Action :=
  [.acquire ⟨"a", []⟩, .resume 0 0, .acquire ⟨"b", [⟨"p", "1"⟩]⟩, .resume 1 1, .resume 1 2,
    .extend 0 ⟨"a", [⟨"p", "1"⟩]⟩, .release 0, .release 1, .resume 0 3]

/-- After the key has become free the released lease takes it. -/
theorem not_coordinator_guarantees : ¬∀ s, Reached (fun _ _ => True) s →
    Exclusive s ∧ Freed s ∧ OneShot s ∧ Drained s := by
  intro h
  obtain ⟨s, hs⟩ := Option.isSome_iff_exists.mp
    (show (runGuarded step (fun _ _ => True) initial releasedExtension).isSome = true by decide +kernel)
  have hleak : ((runGuarded step (fun _ _ => True) initial releasedExtension).map fun s =>
      ((s.leases 0).map Lease.phase, (s.queues.queue "provider:[\"p\",\"1\"]").contains ⟨3, 0⟩)) =
        some (some .released, true) := by
    decide +kernel
  rw [hs, Option.map_some, Option.some.injEq, Prod.mk.injEq] at hleak
  obtain ⟨lease, hlease, hphase⟩ := Option.map_eq_some_iff.mp hleak.1
  have hreached : Reached (fun _ _ => True) s := Reach.of_runGuarded releasedExtension (.start rfl) hs
  exact (h s hreached).2.1.1 0 lease hlease hphase _ 3 (List.contains_iff_mem.mp hleak.2)

end Makaio.Materialization
