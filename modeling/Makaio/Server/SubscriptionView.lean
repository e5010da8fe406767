import Makaio.Server.ClientRegistry

set_option autoImplicit false

/-!
# The transport-level view of the clients' subscriptions

Every change of a client's subscriptions is dispatched to the bus handlers as a list of at most two
messages (`invokeSubscriptionUpdates`): the handlers get the first one in the same turn as the change of
the registry, and the second one when they are done with the first.  The dispatches of different changes
do not wait for each other, so a second message can arrive when the registry has moved on.

## Main definitions

* `SubscriptionView` — what the delivered messages add up to.
* `Fanout`, `Fanout.step` — the registry, the view and the dispatches in
  flight; one change of a client, or the next message of a dispatch.
* `ViewExact` — the view is the aggregate of the registry.
* `Lost` — a late removal took away a held subject, and no change named it since.

## Main results

* `view_exact_iff` — when all dispatches are done, the view is exact exactly when no
  subject is lost and nobody subscribes to `__proto__`, a subject that no message can name.
* `view_diverges` — a run in which the disconnect of one client removes the subject of
  another.
-/

namespace Makaio.Server

open Foundations Bus

/-- The subjects the handlers know of, with priorities and delivery class. -/
abbrev SubscriptionView := OrderedMap Key ClientSubscriptionState

/-- Apply a message: a subscribe message replaces the subjects it names, an unsubscribe message removes
them. -/
def applyUpdate (view : SubscriptionView) : ClientSubscriptionUpdate → SubscriptionView
  | .subscribe message => message.subjects.entries.foldl (fun view e => view.set e.1
      { priorities := e.2
        deliveryClass := normalizeSubscriptionDeliveryClass (message.deliveryClasses.get? e.1) }) view
  | .unsubscribe message => message.subjects.foldl (fun view subject => view.delete subject) view

/-- The registry, what the handlers know, and the messages each running dispatch has yet to deliver. -/
structure Fanout (Filter : Type) where
  registry : ClientRegistry Filter
  view : SubscriptionView
  dispatches : List (List ClientSubscriptionUpdate)

/-- A message or a close event of a client, or the next message of a running dispatch. -/
inductive FanoutAction (Filter : Type)
  | subscribe (client : Socket) (message : ClientSubscribeMessage Filter)
  | unsubscribe (client : Socket) (subjects : List Key)
  | disconnect (client : Socket)
  | deliverNext (dispatch : ℕ)

namespace Fanout

variable {Filter : Type}

/-- A server without clients. -/
def empty : Fanout Filter where
  registry := .empty
  view := .empty
  dispatches := []

/-- Start `invokeSubscriptionUpdates`: the first message is delivered at once. -/
def invokeSubscriptionUpdates (s : Fanout Filter) :
    ClientRegistry Filter × List ClientSubscriptionUpdate → Fanout Filter
  | (registry, []) => { s with registry := registry }
  | (registry, update :: rest) =>
    { registry := registry
      view := applyUpdate s.view update
      dispatches := if rest = [] then s.dispatches else s.dispatches ++ [rest] }

/-- Deliver the first of the messages a dispatch has left. -/
def deliverNext (s : Fanout Filter) (dispatch : ℕ) : Option (Fanout Filter) :=
  match s.dispatches[dispatch]? with
  | some (update :: rest) => some
    { s with
      view := applyUpdate s.view update
      dispatches :=
        if rest = [] then s.dispatches.eraseIdx dispatch else s.dispatches.set dispatch rest }
  | _ => none

def step (s : Fanout Filter) : FanoutAction Filter → Option (Fanout Filter)
  | .subscribe client message =>
    some (s.invokeSubscriptionUpdates (s.registry.handleSubscribeMessage client message))
  | .unsubscribe client subjects =>
    some (s.invokeSubscriptionUpdates (s.registry.handleUnsubscribeMessage client subjects))
  | .disconnect client => some (s.invokeSubscriptionUpdates (s.registry.removeClient client))
  | .deliverNext dispatch => s.deliverNext dispatch

/-- The subjects whose aggregate a change recomputes. -/
def affected (s : Fanout Filter) : FanoutAction Filter → List Key
  | .subscribe _ message => message.subjects.keys
  | .unsubscribe _ subjects => subjects
  | .disconnect client =>
    ((s.registry.clientSubscriptionState.get? client).map OrderedMap.keys).getD []
  | .deliverNext _ => []

/-- Whether the next message of a dispatch removes a subject that some client holds. -/
def removesHeld (s : Fanout Filter) (subject : Key) : FanoutAction Filter → Bool
  | .deliverNext dispatch =>
    match s.dispatches[dispatch]? with
    | some (.unsubscribe message :: _) =>
      subject ∈ message.subjects && (s.registry.aggregateOf subject).isSome
    | _ => false
  | _ => false

end Fanout

/-! ### Runs -/

section Runs

variable {Filter : Type}

/-- The steps of a run, newest first, each with the state it was taken from. -/
abbrev FanoutTrace (Filter : Type) := List (Fanout Filter × FanoutAction Filter)

/-- The runs of a server that starts without clients. -/
inductive FanoutRun : FanoutTrace Filter → Fanout Filter → Prop
  | start : FanoutRun [] .empty
  | next {t : FanoutTrace Filter} {s s' : Fanout Filter} {a : FanoutAction Filter} :
      FanoutRun t s → s.step a = some s' → FanoutRun ((s, a) :: t) s'

/-- The view is the aggregate of the registry: a subject is present iff some client subscribes to it,
its priorities are the union over the clients, and it is relayable iff it is so for all of them. -/
def ViewExact (s : Fanout Filter) : Prop :=
  ∀ subject,
    ((s.view.get? subject).isSome ↔ ∃ c, (s.registry.stateOf c subject).isSome) ∧
    ∀ e, s.view.get? subject = some e →
      e.priorities.Pairwise (· > ·) ∧
      (∀ priority, priority ∈ e.priorities ↔
        ∃ c state, s.registry.stateOf c subject = some state ∧ priority ∈ state.priorities) ∧
      (e.deliveryClass = .relayable ↔
        ∀ c state, s.registry.stateOf c subject = some state → state.deliveryClass = .relayable)

/-- A subject is lost in a run: a dispatch delivered a late removal of it while some client held it, and
no client's message or disconnect has affected it since. -/
def Lost (t : FanoutTrace Filter) (subject : Key) : Prop :=
  ∃ later earlier s a, t = later ++ (s, a) :: earlier ∧ s.removesHeld subject a = true ∧
    ∀ x ∈ later, subject ∉ x.1.affected x.2

end Runs

/-! ### What a message does to the view -/

variable {subject : Key} {dispatch : ℕ}

section Messages

variable {Filter : Type} {r : ClientRegistry Filter} {affectedSubjects : List Key}

/-- The text of a delivery class is read back as the class. -/
private lemma normalize_text (c : SubscriptionDeliveryClass) :
    normalizeSubscriptionDeliveryClass (some c.text) = c := by
  cases c <;> decide

/-- The subjects that are still held, with their aggregates. -/
private lemma mem_heldSubjects_iff {e : Key × ClientSubscriptionState} :
    e ∈ r.heldSubjects affectedSubjects ↔
      e.1 ∈ affectedSubjects ∧ r.aggregateOf e.1 = some e.2 := by
  simp only [ClientRegistry.heldSubjects, List.mem_filterMap, Option.map_eq_some_iff]
  constructor
  · rintro ⟨subject, hmem, state, hstate, rfl⟩
    exact ⟨hmem, hstate⟩
  · exact fun ⟨hmem, hstate⟩ => ⟨e.1, hmem, e.2, hstate, rfl⟩

/-- The keys of the subjects that are still held. -/
private lemma mem_keys_heldSubjects_iff :
    subject ∈ (r.heldSubjects affectedSubjects).map Prod.fst ↔
      subject ∈ affectedSubjects ∧ (r.aggregateOf subject).isSome := by
  simp only [List.mem_map, mem_heldSubjects_iff, Option.isSome_iff_exists]
  constructor
  · rintro ⟨e, ⟨hmem, he⟩, rfl⟩
    exact ⟨hmem, e.2, he⟩
  · exact fun ⟨hmem, state, hstate⟩ => ⟨(subject, state), ⟨hmem, hstate⟩, rfl⟩

/-- The subjects that are no longer held. -/
private lemma mem_removedSubjects_iff :
    subject ∈ r.removedSubjects affectedSubjects ↔
      subject ∈ affectedSubjects ∧ r.aggregateOf subject = none := by
  rw [ClientRegistry.removedSubjects, List.mem_filter, Option.isNone_iff_eq_none]

/-- A field of the replacement: the aggregates of the subjects that are still held. -/
private lemma get?_heldSubjects {V : Type} (r : ClientRegistry Filter) (affectedSubjects : List Key)
    (field : ClientSubscriptionState → V) (subject : Key) :
    ((r.heldSubjects affectedSubjects).foldl (fun m e => m.set e.1 (field e.2))
      (OrderedMap.empty : OrderedMap Key V)).get? subject =
    if subject ∈ affectedSubjects ∧ (r.aggregateOf subject).isSome then
      (r.aggregateOf subject).map field else none := by
  rw [OrderedMap.get?_foldl_set Prod.fst (fun e : Key × ClientSubscriptionState => field e.2)
    (fun k => (r.aggregateOf k).map field) _ (fun e he => by
      rw [(mem_heldSubjects_iff.mp he).2, Option.map_some]), OrderedMap.get?_empty]
  exact if_congr mem_keys_heldSubjects_iff rfl rfl

/-- The replacement sets every affected subject that is still held to its aggregate. -/
lemma get?_applyUpdate_aggregateMessage (r : ClientRegistry Filter) (affectedSubjects : List Key)
    (view : SubscriptionView) (subject : Key) :
    (applyUpdate view (.subscribe (r.aggregateMessage affectedSubjects))).get? subject =
      if subject ∈ affectedSubjects ∧ (r.aggregateOf subject).isSome then r.aggregateOf subject
      else view.get? subject := by
  have hsubjects := get?_heldSubjects r affectedSubjects ClientSubscriptionState.priorities
  have hclasses := get?_heldSubjects r affectedSubjects fun state => state.deliveryClass.text
  rw [applyUpdate, OrderedMap.get?_foldl_set Prod.fst _ (fun k => r.aggregateOf k)]
  · refine if_congr ?_ rfl rfl
    change subject ∈ (r.aggregateMessage affectedSubjects).subjects.keys ↔ _
    rw [OrderedMap.mem_keys_iff, ClientRegistry.aggregateMessage]
    rw [hsubjects]
    split_ifs with h
    · obtain ⟨state, hstate⟩ := Option.isSome_iff_exists.mp h.2
      simp [h, hstate]
    · simp [h]
  · intro e he
    rw [ClientRegistry.aggregateMessage] at he ⊢
    have hget := OrderedMap.mem_entries_iff.mp (show (e.1, e.2) ∈ _ from he)
    rw [hsubjects] at hget
    split_ifs at hget with h
    obtain ⟨state, hstate, hpriorities⟩ := Option.map_eq_some_iff.mp hget
    rw [hclasses, if_pos h, hstate, Option.map_some, normalize_text, ← hpriorities]

/-- A removal takes away the subjects it names. -/
lemma get?_applyUpdate_unsubscribe (view : SubscriptionView) (message : BusUnsubscribeMessage)
    (subject : Key) :
    (applyUpdate view (.unsubscribe message)).get? subject =
      if subject ∈ message.subjects then none else view.get? subject := by
  have h := OrderedMap.get?_foldl_delete (fun k : Key => k) message.subjects view subject
  rwa [List.map_id'] at h

end Messages

/-! ### What a step does -/

namespace Fanout

variable {Filter : Type} {s s' : Fanout Filter}

/-- Some dispatch has yet to remove the subject. -/
def RemovalPending (s : Fanout Filter) (subject : Key) : Prop :=
  ∃ message : BusUnsubscribeMessage, [.unsubscribe message] ∈ s.dispatches ∧ subject ∈ message.subjects

/-- What one change does, given the registry after it and the subjects it affects. -/
structure Changed (s : Fanout Filter) (registry : ClientRegistry Filter) (affectedSubjects : List Key)
    (s' : Fanout Filter) : Prop where
  registry_eq : s'.registry = registry
  /-- A subject that is still held is replaced at once. -/
  held : ∀ subject ∈ affectedSubjects, (registry.aggregateOf subject).isSome →
    s'.view.get? subject = registry.aggregateOf subject
  /-- A subject that is no longer held is removed at once or later. -/
  removed : ∀ subject ∈ affectedSubjects, registry.aggregateOf subject = none →
    s'.view.get? subject = none ∨ s'.RemovalPending subject
  other : ∀ subject ∉ affectedSubjects, s'.view.get? subject = s.view.get? subject
  dispatches : ∀ d ∈ s'.dispatches, d ∈ s.dispatches ∨ ∃ message, d = [.unsubscribe message] ∧
    ∀ subject ∈ message.subjects, subject ∈ affectedSubjects
  kept : ∀ d ∈ s.dispatches, d ∈ s'.dispatches

/-- **The updates of a change** leave every affected subject that is still held exact.

**Proof sketch.** By which of the two messages there are; only when there are both does the second one
stay behind. -/
lemma changed_invokeSubscriptionUpdates (s : Fanout Filter) (registry : ClientRegistry Filter)
    (affectedSubjects : List Key) :
    s.Changed registry (ClientRegistry.memberKeys affectedSubjects)
      (s.invokeSubscriptionUpdates (registry, registry.buildAggregateUpdates affectedSubjects)) := by
  rw [ClientRegistry.buildAggregateUpdates]
  generalize ClientRegistry.memberKeys affectedSubjects = affectedSubjects
  have hheld : registry.heldSubjects affectedSubjects = [] →
      ∀ subject ∈ affectedSubjects, registry.aggregateOf subject = none := by
    intro hnil subject hmem
    rw [← Option.not_isSome_iff_eq_none]
    intro hsome
    have := mem_keys_heldSubjects_iff.mpr ⟨hmem, hsome⟩
    rw [hnil] at this
    cases this
  have hremoved : registry.removedSubjects affectedSubjects = [] →
      ∀ subject ∈ affectedSubjects, registry.aggregateOf subject ≠ none := by
    intro hnil subject hmem hnone
    have := mem_removedSubjects_iff.mpr ⟨hmem, hnone⟩
    rw [hnil] at this
    cases this
  by_cases hh : registry.heldSubjects affectedSubjects = []
  · by_cases hr : registry.removedSubjects affectedSubjects = []
    · rw [if_pos hh, if_pos hr]
      exact
        { registry_eq := rfl
          held := fun subject hmem hsome => by rw [hheld hh subject hmem] at hsome; cases hsome
          removed := fun subject hmem hnone => absurd hnone (hremoved hr subject hmem)
          other := fun _ _ => rfl
          dispatches := fun d hd => .inl hd
          kept := fun d hd => hd }
    · rw [if_pos hh, if_neg hr, List.nil_append, invokeSubscriptionUpdates, if_pos rfl]
      exact
        { registry_eq := rfl
          held := fun subject hmem hsome => by rw [hheld hh subject hmem] at hsome; cases hsome
          removed := fun subject hmem hnone => .inl <| by
            rw [get?_applyUpdate_unsubscribe, if_pos (mem_removedSubjects_iff.mpr ⟨hmem, hnone⟩)]
          other := fun subject hmem => by
            rw [get?_applyUpdate_unsubscribe, if_neg fun h => hmem (mem_removedSubjects_iff.mp h).1]
          dispatches := fun d hd => .inl hd
          kept := fun d hd => hd }
  · have hview (subject : Key) :=
      get?_applyUpdate_aggregateMessage registry affectedSubjects s.view subject
    by_cases hr : registry.removedSubjects affectedSubjects = []
    · rw [if_neg hh, if_pos hr, List.append_nil, invokeSubscriptionUpdates, if_pos rfl]
      exact
        { registry_eq := rfl
          held := fun subject hmem hsome => by rw [hview, if_pos ⟨hmem, hsome⟩]
          removed := fun subject hmem hnone => absurd hnone (hremoved hr subject hmem)
          other := fun subject hmem => by rw [hview, if_neg fun h => hmem h.1]
          dispatches := fun d hd => .inl hd
          kept := fun d hd => hd }
    · rw [if_neg hh, if_neg hr, List.singleton_append, invokeSubscriptionUpdates,
        if_neg (List.cons_ne_nil _ _)]
      exact
        { registry_eq := rfl
          held := fun subject hmem hsome => by rw [hview, if_pos ⟨hmem, hsome⟩]
          removed := fun subject hmem hnone => .inr
            ⟨⟨registry.removedSubjects affectedSubjects⟩, by simp,
              mem_removedSubjects_iff.mpr ⟨hmem, hnone⟩⟩
          other := fun subject hmem => by rw [hview, if_neg fun h => hmem h.1]
          dispatches := fun d hd => by
            rcases List.mem_append.mp hd with hd | hd
            · exact .inl hd
            · exact .inr ⟨_, List.mem_singleton.mp hd, fun _ h => (mem_removedSubjects_iff.mp h).1⟩
          kept := fun d hd => List.mem_append_left _ hd }

/-- **What a step can be**: a change, which touches the registry only at the subjects it affects and
delivers no late message, or the delivery of a message. -/
lemma step_cases {a : FanoutAction Filter} (h : s.step a = some s') :
    (∃ registry, s.Changed registry (ClientRegistry.memberKeys (s.affected a)) s' ∧
      (∀ subject ∉ s.affected a, ∀ c, registry.stateOf c subject = s.registry.stateOf c subject) ∧
      ∀ subject, s.removesHeld subject a = false) ∨
    ∃ dispatch, a = .deliverNext dispatch ∧ s.deliverNext dispatch = some s' := by
  cases a with
  | subscribe client message =>
    rw [step, Option.some.injEq] at h
    subst h
    refine .inl ⟨_, s.changed_invokeSubscriptionUpdates
      (s.registry.handleSubscribeMessage client message).1 message.subjects.keys, ?_, fun _ => rfl⟩
    intro subject hmem c
    rw [ClientRegistry.stateOf_handleSubscribeMessage, if_neg fun h => hmem h.2]
  | unsubscribe client subjects =>
    rw [step, Option.some.injEq] at h
    subst h
    refine .inl ⟨_, s.changed_invokeSubscriptionUpdates
      (s.registry.handleUnsubscribeMessage client subjects).1 subjects, ?_, fun _ => rfl⟩
    intro subject hmem c
    rw [ClientRegistry.stateOf_handleUnsubscribeMessage, if_neg fun h => hmem h.2]
  | disconnect client =>
    rw [step, Option.some.injEq] at h
    subst h
    refine .inl ⟨_, s.changed_invokeSubscriptionUpdates (s.registry.removeClient client).1
      (s.affected (.disconnect client)), ?_, fun _ => rfl⟩
    intro subject hmem c
    rw [ClientRegistry.stateOf_removeClient]
    split_ifs with hc
    · rw [affected, ClientRegistry.mem_affectedSubjects_iff, ← hc] at hmem
      exact (Option.not_isSome_iff_eq_none.mp hmem).symm
    · rfl
  | deliverNext dispatch => exact .inr ⟨dispatch, rfl, h⟩

/-- **What a delivery does**, when every dispatch in flight has one removal left: it removes the
subjects of that removal, and the dispatch is over. -/
lemma deliverNext_cases (hshape : ∀ d ∈ s.dispatches, ∃ message, d = [.unsubscribe message])
    (h : s.deliverNext dispatch = some s') :
    ∃ message, s.dispatches[dispatch]? = some [.unsubscribe message] ∧
      s' = { s with
        view := applyUpdate s.view (.unsubscribe message)
        dispatches := s.dispatches.eraseIdx dispatch } := by
  rw [deliverNext] at h
  split at h
  · rename_i update rest hd
    obtain ⟨message, hmessage⟩ := hshape _ (List.mem_of_getElem? hd)
    rw [List.cons.injEq] at hmessage
    rw [hmessage.1, hmessage.2, if_pos rfl, Option.some.injEq] at h
    exact ⟨message, by rw [hd, hmessage.1, hmessage.2], h.symm⟩
  · cases h

/-- A pending removal of another subject survives a delivery. -/
lemma RemovalPending.eraseIdx {message : BusUnsubscribeMessage} {view : SubscriptionView}
    (h : s.RemovalPending subject) (hd : s.dispatches[dispatch]? = some [.unsubscribe message])
    (hmem : subject ∉ message.subjects) :
    RemovalPending { s with view := view, dispatches := s.dispatches.eraseIdx dispatch } subject := by
  obtain ⟨message', hmem', hsubject⟩ := h
  refine ⟨message', ?_, hsubject⟩
  obtain ⟨i, hi⟩ := List.mem_iff_getElem?.mp hmem'
  refine List.mem_eraseIdx_iff_getElem?.mpr ⟨i, fun hne => hmem ?_, hi⟩
  rw [hne, hd, Option.some.injEq, List.cons.injEq, ClientSubscriptionUpdate.unsubscribe.injEq] at hi
  rw [hi.1]
  exact hsubject

end Fanout

/-! ### The view over a run -/

section Runs

variable {Filter : Type} {t : FanoutTrace Filter} {s : Fanout Filter}

/-- A subject is lost after a step exactly when the step loses it, or it was lost and the step does not
affect it. -/
lemma lost_cons {a : FanoutAction Filter} :
    Lost ((s, a) :: t) subject ↔
      s.removesHeld subject a = true ∨ subject ∉ s.affected a ∧ Lost t subject := by
  constructor
  · rintro ⟨later, earlier, s₀, a₀, heq, hstale, hlater⟩
    cases later with
    | nil =>
      obtain ⟨⟨rfl, rfl⟩, -⟩ := heq
      exact .inl hstale
    | cons x later =>
      obtain ⟨rfl, rfl⟩ := heq
      exact .inr ⟨hlater _ List.mem_cons_self,
        later, earlier, s₀, a₀, rfl, hstale, fun y hy => hlater y (List.mem_cons_of_mem _ hy)⟩
  · rintro (hstale | ⟨hmem, later, earlier, s₀, a₀, rfl, hstale, hlater⟩)
    · exact ⟨[], t, s, a, rfl, hstale, fun y hy => by cases hy⟩
    · refine ⟨(s, a) :: later, earlier, s₀, a₀, rfl, hstale, fun y hy => ?_⟩
      rcases List.mem_cons.mp hy with rfl | hy
      · exact hmem
      · exact hlater y hy

/-- What holds after every step of a run. -/
structure FanoutInv (t : FanoutTrace Filter) (s : Fanout Filter) : Prop where
  /-- A dispatch in flight has one removal left. -/
  shape : ∀ d ∈ s.dispatches, ∃ message, d = [.unsubscribe message] ∧ "__proto__" ∉ message.subjects
  /-- No message has named `__proto__`. -/
  proto : s.view.get? "__proto__" = none
  /-- A held subject that is not lost is exact. -/
  held : ∀ subject ≠ "__proto__", (s.registry.aggregateOf subject).isSome → ¬Lost t subject →
    s.view.get? subject = s.registry.aggregateOf subject
  /-- A lost subject is held and absent. -/
  lost : ∀ subject, Lost t subject →
    (s.registry.aggregateOf subject).isSome ∧ s.view.get? subject = none
  /-- A subject that nobody holds is absent, or about to be removed. -/
  gone : ∀ subject, s.registry.aggregateOf subject = none →
    s.view.get? subject = none ∨ s.RemovalPending subject

/-- A change keeps the invariant. -/
private lemma FanoutInv.changed (hinv : FanoutInv t s) {s' : Fanout Filter} {a : FanoutAction Filter}
    {registry : ClientRegistry Filter}
    (hchanged : s.Changed registry (ClientRegistry.memberKeys (s.affected a)) s')
    (hother : ∀ subject ∉ s.affected a, ∀ c,
      registry.stateOf c subject = s.registry.stateOf c subject)
    (hstale : ∀ subject, s.removesHeld subject a = false) : FanoutInv ((s, a) :: t) s' := by
  have haggregate (subject : Key) (hmem : subject ∉ s.affected a) :
      s'.registry.aggregateOf subject = s.registry.aggregateOf subject := by
    rw [hchanged.registry_eq]
    exact ClientRegistry.aggregateOf_congr (hother subject hmem)
  have hlost (subject : Key) : Lost ((s, a) :: t) subject ↔ subject ∉ s.affected a ∧ Lost t subject := by
    rw [lost_cons, hstale subject]
    simp
  have hmembers {subject : Key} : subject ∈ ClientRegistry.memberKeys (s.affected a) ↔
      subject ∈ s.affected a ∧ subject ≠ "__proto__" := by
    rw [ClientRegistry.memberKeys, List.mem_filter, decide_eq_true_eq]
  have hview (subject : Key) (hmem : subject ∉ s.affected a) : s'.view.get? subject = s.view.get? subject :=
    hchanged.other subject fun h => hmem (hmembers.mp h).1
  have hproto : s'.view.get? "__proto__" = none :=
    (hchanged.other _ fun h => (hmembers.mp h).2 rfl).trans hinv.proto
  refine
    { shape := fun d hd => (hchanged.dispatches d hd).elim (hinv.shape d)
        fun ⟨message, heq, hmem⟩ => ⟨message, heq, fun h => (hmembers.mp (hmem _ h)).2 rfl⟩
      proto := hproto
      held := fun subject hne hsome hnot => ?_
      lost := fun subject h => ?_
      gone := fun subject hnone => ?_ }
  · by_cases hmem : subject ∈ s.affected a
    · rw [hchanged.registry_eq] at hsome ⊢
      exact hchanged.held subject (hmembers.mpr ⟨hmem, hne⟩) hsome
    · rw [haggregate subject hmem] at hsome ⊢
      rw [hview subject hmem]
      exact hinv.held subject hne hsome fun h => hnot ((hlost subject).mpr ⟨hmem, h⟩)
  · obtain ⟨hmem, h⟩ := (hlost subject).mp h
    rw [haggregate subject hmem, hview subject hmem]
    exact hinv.lost subject h
  · by_cases hne : subject = "__proto__"
    · exact .inl (hne ▸ hproto)
    by_cases hmem : subject ∈ s.affected a
    · rw [hchanged.registry_eq] at hnone
      exact hchanged.removed subject (hmembers.mpr ⟨hmem, hne⟩) hnone
    · rw [haggregate subject hmem] at hnone
      rw [hview subject hmem]
      exact (hinv.gone subject hnone).imp id fun ⟨message, hd, hs⟩ => ⟨message, hchanged.kept _ hd, hs⟩

/-- A delivery keeps the invariant. -/
private lemma FanoutInv.delivered (hinv : FanoutInv t s) {s' : Fanout Filter}
    (h : s.deliverNext dispatch = some s') : FanoutInv ((s, .deliverNext dispatch) :: t) s' := by
  obtain ⟨message, hd, rfl⟩ := Fanout.deliverNext_cases
    (fun d hd => (hinv.shape d hd).imp fun _ hshape => hshape.1) h
  have hlost (subject : Key) : Lost ((s, .deliverNext dispatch) :: t) subject ↔
      (subject ∈ message.subjects ∧ (s.registry.aggregateOf subject).isSome) ∨ Lost t subject := by
    rw [lost_cons, Fanout.removesHeld, hd]
    simp [Fanout.affected]
  refine
    { shape := fun d hmem => hinv.shape d (List.mem_of_mem_eraseIdx hmem)
      proto := by rw [get?_applyUpdate_unsubscribe, hinv.proto, ite_self]
      held := fun subject hne hsome hnot => ?_
      lost := fun subject h => ?_
      gone := fun subject hnone => ?_ }
  · rw [hlost, not_or] at hnot
    rw [get?_applyUpdate_unsubscribe, if_neg fun hmem => hnot.1 ⟨hmem, hsome⟩]
    exact hinv.held subject hne hsome hnot.2
  · rw [get?_applyUpdate_unsubscribe]
    rcases (hlost subject).mp h with ⟨hmem, hsome⟩ | h
    · exact ⟨hsome, if_pos hmem⟩
    · exact ⟨(hinv.lost subject h).1, by rw [(hinv.lost subject h).2, ite_self]⟩
  · rw [get?_applyUpdate_unsubscribe]
    by_cases hmem : subject ∈ message.subjects
    · exact .inl (if_pos hmem)
    · rw [if_neg hmem]
      exact (hinv.gone subject hnone).imp id fun hpending => hpending.eraseIdx hd hmem

/-- **Every run keeps the invariant.** -/
lemma FanoutRun.inv (hrun : FanoutRun t s) : FanoutInv t s := by
  induction hrun with
  | start =>
    have hnone (subject : Key) :
        (Fanout.empty : Fanout Filter).registry.aggregateOf subject = none := rfl
    refine
      { shape := fun d hd => by cases hd
        proto := rfl
        held := fun subject _ hsome => by rw [hnone] at hsome; cases hsome
        lost := fun subject h => ?_
        gone := fun subject _ => .inl rfl }
    obtain ⟨later, earlier, s₀, a₀, heq, -⟩ := h
    simp at heq
  | next _ hstep ih =>
    rcases Fanout.step_cases hstep with ⟨registry, hchanged, hother, hstale⟩ | ⟨dispatch, rfl, h⟩
    · exact ih.changed hchanged hother hstale
    · exact ih.delivered h

/-- A view that agrees with the aggregates is exact. -/
private lemma viewExact_of_eq
    (h : ∀ subject, s.view.get? subject = s.registry.aggregateOf subject) : ViewExact s := by
  intro subject
  rw [h subject]
  refine ⟨?_, fun e he => ⟨ClientRegistry.descending_of_aggregateOf he, fun _ =>
    ClientRegistry.mem_priorities_of_aggregateOf he, ClientRegistry.relayable_of_aggregateOf_iff he⟩⟩
  rw [← not_iff_not, Option.not_isSome_iff_eq_none, ClientRegistry.aggregateOf_eq_none_iff]
  simp

/-- **The view converges exactly when no subject is lost**: in every run of subscriptions,
unsubscriptions and disconnects whose dispatches are all done, the view is the aggregate of the registry
if and only if every late removal of a held subject was followed by a client's change of the subject, and
no client subscribes to `__proto__`.

**Proof sketch.** Over the run, a held subject is exact unless it is lost, a lost one is absent, and a
subject that nobody holds is absent or still to be removed (`FanoutRun.inv`). -/
theorem view_exact_iff (hrun : FanoutRun t s) (hdone : s.dispatches = []) :
    ViewExact s ↔ (∀ subject, ¬Lost t subject) ∧ ∀ c, s.registry.stateOf c "__proto__" = none := by
  have hinv := hrun.inv
  constructor
  · intro hexact
    -- a subject that is absent from an exact view is nobody's
    have hnobody : ∀ subject, s.view.get? subject = none → ∀ c, s.registry.stateOf c subject = none := by
      intro subject hnone c
      refine Option.not_isSome_iff_eq_none.mp fun hc => ?_
      have hsome := (hexact subject).1.mpr ⟨c, hc⟩
      rw [hnone] at hsome
      cases hsome
    refine ⟨fun subject hlost => ?_, hnobody _ hinv.proto⟩
    obtain ⟨hsome, hnone⟩ := hinv.lost subject hlost
    rw [ClientRegistry.aggregateOf_eq_none_iff.mpr (hnobody subject hnone)] at hsome
    cases hsome
  · rintro ⟨hnot, hproto⟩
    refine viewExact_of_eq fun subject => ?_
    by_cases hne : subject = "__proto__"
    · rw [hne, hinv.proto, ClientRegistry.aggregateOf_eq_none_iff.mpr hproto]
    cases haggregate : s.registry.aggregateOf subject with
    | some e =>
      rw [← haggregate]
      exact hinv.held subject hne (by rw [haggregate]; rfl) (hnot subject)
    | none =>
      rcases hinv.gone subject haggregate with h | ⟨message, hd, -⟩
      · exact h
      · rw [hdone] at hd
        cases hd

/-- The run of a list of actions, if each of them is enabled. -/
def runFanout (t : FanoutTrace Filter) (s : Fanout Filter) :
    List (FanoutAction Filter) → Option (FanoutTrace Filter × Fanout Filter)
  | [] => some (t, s)
  | a :: as => (s.step a).bind fun s' => runFanout ((s, a) :: t) s' as

/-- An evaluated list of actions is a run. -/
lemma FanoutRun.of_runFanout {as : List (FanoutAction Filter)} {t' : FanoutTrace Filter}
    {s' : Fanout Filter} (hrun : FanoutRun t s) (h : runFanout t s as = some (t', s')) :
    FanoutRun t' s' := by
  induction as generalizing t s with
  | nil =>
    rw [runFanout, Option.some.injEq, Prod.mk.injEq] at h
    exact h.1 ▸ h.2 ▸ hrun
  | cons a as ih =>
    obtain ⟨u, hu, hrest⟩ := Option.bind_eq_some_iff.mp h
    exact ih (hrun.next hu) hrest

end Runs

/-- A subscription to some subjects, each with priority 0. -/
def subscribeTo (subjects : List Key) : ClientSubscribeMessage Unit where
  subjects := subjects.foldl (fun m subject => m.set subject [0]) .empty
  deliveryClasses := .empty
  filters := .empty

/-- Clients 1 and 2 share `job.started`, and client 1 also subscribes to `job.done`.  Client 1
disconnects; before the second message of its dispatch, client 3 subscribes to `job.done`. -/
def lateRemoval : List (FanoutAction Unit) :=
  [.subscribe 1 (subscribeTo ["job.started", "job.done"]), .subscribe 2 (subscribeTo ["job.started"]),
    .disconnect 1, .subscribe 3 (subscribeTo ["job.done"]), .deliverNext 0]

/-- The late message removes the subject of client 3. -/
lemma lateRemoval_run : ∃ (t : FanoutTrace Unit) (s : Fanout Unit),
    FanoutRun t s ∧ s.dispatches = [] ∧ s.view.get? "job.done" = none ∧
      (s.registry.stateOf 3 "job.done").isSome := by
  obtain ⟨x, hx⟩ : ∃ x, runFanout [] .empty lateRemoval = some x := ⟨_, rfl⟩
  refine ⟨x.1, x.2, FanoutRun.start.of_runFanout hx, ?_⟩
  have hall : ∀ y, runFanout [] Fanout.empty lateRemoval = some y →
      y.2.dispatches = [] ∧ y.2.view.get? "job.done" = none ∧
        (y.2.registry.stateOf 3 "job.done").isSome := by
    rintro y ⟨⟩
    exact ⟨rfl, rfl, rfl⟩
  exact hall x hx

/-- **The view can diverge**: a client's disconnect removes a subject another client is subscribed
to. -/
theorem view_diverges : ¬∀ (t : FanoutTrace Unit) (s : Fanout Unit), FanoutRun t s →
    s.dispatches = [] → ViewExact s := by
  intro h
  obtain ⟨t, s, hrun, hdone, hview, hstate⟩ := lateRemoval_run
  have hexact := ((h t s hrun hdone) "job.done").1.mpr ⟨3, hstate⟩
  rw [hview] at hexact
  cases hexact

/-- The condition at the run with the late removal. -/
theorem view_exact_iff_lateRemoval : ∃ (t : FanoutTrace Unit) (s : Fanout Unit),
    FanoutRun t s ∧ s.dispatches = [] ∧ (ViewExact s ↔
      (∀ subject, ¬Lost t subject) ∧ ∀ c, s.registry.stateOf c "__proto__" = none) := by
  obtain ⟨t, s, hrun, hdone, -, -⟩ := lateRemoval_run
  exact ⟨t, s, hrun, hdone, view_exact_iff hrun hdone⟩

end Makaio.Server
