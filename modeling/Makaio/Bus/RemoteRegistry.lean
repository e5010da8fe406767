import Makaio.Bus.RemoteSubscriptions

set_option autoImplicit false

/-!
# Consistency of the remote registry

What the peers advertised is kept in three maps (request routes, transports with event handlers only,
delivery classes), and each operation updates the three of them separately.  Abstractly there is one
thing to know about a transport and a subject key: the last subscription that is still valid, with its
priorities and its delivery class.  The three maps are the three faces of it.

## Main definitions

* `RemoteOperation`, `runRemote` — sequences of operations.
* `lastSubscription` — the valid subscription after a sequence.
* `RemoteView` — what the three maps say about a key and a transport.

## Main results

* `remoteView_replaceRemoteSubscription`, `remoteView_removeRemoteSubscription`,
  `remoteView_purge` — what each operation does to each view.
* `remoteView_runRemote` — the maps refine the last subscriptions.
* `remoteRegistry_consistent` — the consistency of the three maps.
-/

namespace Makaio.Bus

open Foundations

/-- The operations on the remote registry. -/
inductive RemoteOperation
  | subscribe (transportName : String) (message : BusSubscribeMessage)
  | unsubscribe (transportName : String) (message : BusUnsubscribeMessage)
  | purge (transportName : String)

/-- A subscription: its priorities and its delivery class. -/
abbrev RemoteSubscription := List ℤ × SubscriptionDeliveryClass

/-- What an operation does to the valid subscriptions. -/
def RemoteOperation.update (last : Key → String → Option RemoteSubscription) (key : Key)
    (transport : String) : RemoteOperation → Option RemoteSubscription
  | subscribe transportName message =>
    match message.subjects.get? key with
    | some priorities =>
      if transport = transportName then some (priorities,
        normalizeSubscriptionDeliveryClass (message.deliveryClasses.get? key))
      else last key transport
    | none => last key transport
  | unsubscribe transportName message =>
    if transport = transportName ∧ key ∈ message.subjects then none else last key transport
  | purge transportName => if transport = transportName then none else last key transport

/-- The valid subscription of a transport for a key after some operations: the last one, unless it
has been removed. -/
def lastSubscription (operations : List RemoteOperation) : Key → String → Option RemoteSubscription :=
  operations.foldl (fun last operation key transport => operation.update last key transport)
    fun _ _ => none

section Run

variable {H : Type}

/-- One operation; the calls it makes on other transports are not looked at here. -/
def remoteStep (context : BusContext H) : RemoteOperation → BusContext H
  | .subscribe transportName message => (propagateSubscribe context transportName message).1
  | .unsubscribe transportName message => (propagateUnsubscribe context transportName message).1
  | .purge transportName => (purgeRemoteHandlersForTransport context transportName).1

/-- Some operations one after the other. -/
def runRemote (context : BusContext H) (operations : List RemoteOperation) : BusContext H :=
  operations.foldl remoteStep context

/-- What the three maps say about a key and a transport. -/
structure RemoteView where
  /-- The priorities of the request routes. -/
  priorities : List ℤ
  /-- Membership in the set of transports with event handlers only. -/
  eventOnly : Bool
  deliveryClass : Option SubscriptionDeliveryClass

/-- The view of a context. -/
def remoteView (context : BusContext H) (key : Key) (transport : String) : RemoteView where
  priorities := (((context.remoteRequestHandlers.get? key).getD []).filter fun entry =>
    entry.transport = transport).map RemoteRoute.priority
  eventOnly := transport ∈ (context.remoteEventHandlers.get? key).getD []
  deliveryClass := deliveryClass? context key transport

/-- What the maps should say. -/
def RemoteView.ofSubscription : Option RemoteSubscription → RemoteView
  | some (priorities, deliveryClass) => ⟨priorities, priorities.isEmpty, some deliveryClass⟩
  | none => ⟨[], false, none⟩

/-- No container is stored empty. -/
structure NoEmptyContainer (context : BusContext H) : Prop where
  remoteRequestHandlers : ∀ key, context.remoteRequestHandlers.get? key ≠ some []
  remoteEventHandlers : ∀ key, context.remoteEventHandlers.get? key ≠ some []
  remoteSubscriptionDeliveryClasses :
    ∀ key, context.remoteSubscriptionDeliveryClasses.get? key ≠ some .empty

end Run

/-! ### One key -/

variable {key : Key} {transport : String}

section OneKey

variable {H : Type} {context : BusContext H} {source : String}

/-- The routes of a transport among the routes of all. -/
private lemma filter_routes_source (source : String) (routes : List RemoteRoute) (priorities : List ℤ)
    (transport : String) :
    ((routes.filter fun entry => entry.transport ≠ source) ++
        priorities.map fun priority => (⟨source, priority⟩ : RemoteRoute)).filter
          (fun entry => entry.transport = transport) =
      if transport = source then priorities.map fun priority => ⟨source, priority⟩
      else routes.filter fun entry => entry.transport = transport := by
  rw [List.filter_append, List.filter_filter, List.filter_map]
  split_ifs with h
  · subst h
    rw [List.filter_eq_nil_iff.mpr (by simp), List.nil_append]
    congr 1
    exact List.filter_eq_self.mpr (by simp)
  · have hsource : source ≠ transport := fun h' => h h'.symm
    have hnil : priorities.filter ((fun entry : RemoteRoute => decide (entry.transport = transport)) ∘
        fun priority => (⟨source, priority⟩ : RemoteRoute)) = [] :=
      List.filter_eq_nil_iff.mpr (by simp [hsource])
    rw [hnil, List.map_nil, List.append_nil]
    refine List.filter_congr fun entry _ => ?_
    by_cases he : entry.transport = transport <;> simp [he, h]

variable {subject : Key}

/-- The event transports after a subscription has been replaced. -/
private lemma getD_remoteEventHandlers_remove :
    ((removeRemoteEventSubscription context subject source).remoteEventHandlers.get? key).getD [] =
      if key = subject then ((context.remoteEventHandlers.get? key).getD []).filter
        fun name => name ≠ source
      else (context.remoteEventHandlers.get? key).getD [] := by
  unfold removeRemoteEventSubscription
  cases hget : context.remoteEventHandlers.get? subject with
  | none =>
    split_ifs with h
    · rw [h, hget]
      rfl
    · rfl
  | some eventTransports =>
    rw [getD_get?_delete_or_set (by simp)]
    split_ifs with h
    · rw [h, hget]
      rfl
    · rfl

/-- **A replaced subscription** is seen under its key and transport, and nothing else changes. -/
theorem remoteView_replaceRemoteSubscription {priorities : List ℤ} {deliveryClass : SubscriptionDeliveryClass} :
    remoteView (replaceRemoteSubscription source subject priorities deliveryClass context) key
        transport =
      if key = subject ∧ transport = source then
        RemoteView.ofSubscription (some (priorities, deliveryClass))
      else remoteView context key transport := by
  have hroutes : ((replaceRemoteSubscription source subject priorities deliveryClass
      context).remoteRequestHandlers.get? key).getD [] =
      if key = subject then ((context.remoteRequestHandlers.get? subject).getD []).filter
          (fun entry => entry.transport ≠ source) ++
            priorities.map fun priority => ⟨source, priority⟩
      else (context.remoteRequestHandlers.get? key).getD [] :=
    getD_remoteRequestHandlers_replaceRemoteSubscription
  have hevents : transport ∈ ((replaceRemoteSubscription source subject priorities deliveryClass
      context).remoteEventHandlers.get? key).getD [] ↔
      if key = subject ∧ transport = source then priorities = []
      else transport ∈ (context.remoteEventHandlers.get? key).getD [] := by
    unfold replaceRemoteSubscription
    by_cases hempty : priorities.length = 0
    · have hnil := List.length_eq_zero_iff.mp hempty
      rw [if_pos hempty, OrderedMap.get?_set]
      by_cases hkey : key = subject
      · subst hkey
        by_cases hsource : transport = source
        · subst hsource
          simp only [true_and, if_true, Option.getD_some, hnil]
          split_ifs with hmem <;> simp [hmem]
        · simp only [hsource, and_false, if_false, if_true, Option.getD_some]
          split_ifs <;> simp [hsource]
      · simp [hkey]
    · have hne : priorities ≠ [] := fun h => hempty (by simp [h])
      rw [if_neg hempty, getD_remoteEventHandlers_remove]
      by_cases hkey : key = subject
      · subst hkey
        by_cases hsource : transport = source
        · simp [hsource, hne]
        · simp [hsource]
      · simp [hkey]
  unfold remoteView
  rw [hroutes, deliveryClass?_replaceRemoteSubscription]
  by_cases hkey : key = subject
  · subst hkey
    rw [if_pos rfl, filter_routes_source]
    by_cases hsource : transport = source
    · simp only [hsource, true_and, if_true] at hevents ⊢
      simp only [hevents, RemoteView.ofSubscription, List.map_map, RemoteView.mk.injEq, and_true]
      refine ⟨?_, by cases priorities <;> simp⟩
      exact (List.map_congr_left fun _ _ => rfl).trans (List.map_id _)
    · simp only [hsource, and_false, if_false] at hevents ⊢
      simp only [hevents]
  · simp only [hkey, false_and, if_false] at hevents ⊢
    simp only [hevents]

/-- The stored routes after a key has been removed. -/
private lemma getD_remoteRequestHandlers_remove :
    ((removeRemoteSubscription source context subject).remoteRequestHandlers.get? key).getD [] =
      if key = subject then ((context.remoteRequestHandlers.get? key).getD []).filter
        fun entry => entry.transport ≠ source
      else (context.remoteRequestHandlers.get? key).getD [] := by
  have hmap : (removeRemoteSubscription source context subject).remoteRequestHandlers =
      (removeRemoteRoutes context subject source).remoteRequestHandlers := by
    unfold removeRemoteSubscription removeDeliveryClass
    dsimp only
    split
    · rw [remoteRequestHandlers_removeRemoteEventSubscription]
    · rw [remoteRequestHandlers_removeRemoteEventSubscription]
  rw [hmap]
  unfold removeRemoteRoutes
  cases hget : context.remoteRequestHandlers.get? subject with
  | none =>
    split_ifs with h
    · rw [h, hget]
      rfl
    · rfl
  | some existing =>
    rw [getD_get?_delete_or_set (by simp)]
    split_ifs with h
    · rw [h, hget]
      rfl
    · rfl

/-- **A removed subscription** is no longer seen under its key and transport, and nothing else
changes. -/
theorem remoteView_removeRemoteSubscription :
    remoteView (removeRemoteSubscription source context subject) key transport =
      if key = subject ∧ transport = source then RemoteView.ofSubscription none
      else remoteView context key transport := by
  have hevents : ((removeRemoteSubscription source context subject).remoteEventHandlers.get?
      key).getD [] =
      if key = subject then ((context.remoteEventHandlers.get? key).getD []).filter
        fun name => name ≠ source
      else (context.remoteEventHandlers.get? key).getD [] := by
    have hmap : (removeRemoteSubscription source context subject).remoteEventHandlers =
        (removeRemoteEventSubscription (removeRemoteRoutes context subject source) subject
          source).remoteEventHandlers := by
      unfold removeRemoteSubscription removeDeliveryClass
      dsimp only
      split <;> rfl
    have hroutes : (removeRemoteRoutes context subject source).remoteEventHandlers =
        context.remoteEventHandlers := by
      unfold removeRemoteRoutes
      split <;> rfl
    rw [hmap, getD_remoteEventHandlers_remove, hroutes]
  unfold remoteView
  rw [getD_remoteRequestHandlers_remove, hevents, deliveryClass?_removeRemoteSubscription]
  by_cases hkey : key = subject
  · subst hkey
    have hfilter := filter_routes_source source ((context.remoteRequestHandlers.get? key).getD []) []
      transport
    rw [List.map_nil, List.append_nil] at hfilter
    simp only [if_true, true_and, hfilter]
    by_cases hsource : transport = source
    · simp [hsource, RemoteView.ofSubscription]
    · simp [hsource]
  · simp [hkey]

/-! ### Empty containers -/

/-- A list that is deleted when it is empty is not stored empty. -/
private lemma ne_some_nil_delete_or_set {α : Type} {m : OrderedMap Key (List α)} (subject : Key)
    {l : List α} {c : Prop} [Decidable c] (hc : c ↔ l = []) (h : ∀ key, m.get? key ≠ some []) :
    ∀ key, (if c then m.delete subject else m.set subject l).get? key ≠ some [] := by
  intro key
  by_cases hcond : c
  · rw [if_pos hcond, OrderedMap.get?_delete]
    split_ifs
    · simp
    · exact h key
  · rw [if_neg hcond, OrderedMap.get?_set]
    split_ifs
    · exact fun heq => hcond (hc.mpr (Option.some.inj heq))
    · exact h key

lemma NoEmptyContainer.removeRemoteEventSubscription (hs : NoEmptyContainer context)
    (source : String) (subject : Key) : NoEmptyContainer (removeRemoteEventSubscription context subject source) := by
  unfold Bus.removeRemoteEventSubscription
  split
  · exact hs
  · exact { hs with
      remoteEventHandlers := ne_some_nil_delete_or_set subject (by simp) hs.remoteEventHandlers }

lemma NoEmptyContainer.replaceRemoteSubscription (hs : NoEmptyContainer context) (subject : Key)
    (priorities : List ℤ) (deliveryClass : SubscriptionDeliveryClass) :
    NoEmptyContainer
      (replaceRemoteSubscription source subject priorities deliveryClass context) := by
  have hset : ∀ {m : OrderedMap String SubscriptionDeliveryClass},
      m.set source deliveryClass ≠ .empty := by
    intro m h
    have hget := OrderedMap.get?_set_self m source deliveryClass
    rw [h] at hget
    cases hget
  have hclasses : ∀ key, (context.remoteSubscriptionDeliveryClasses.set subject
      (((context.remoteSubscriptionDeliveryClasses.get? subject).getD .empty).set source
        deliveryClass)).get? key ≠ some .empty := by
    intro key
    rw [OrderedMap.get?_set]
    split_ifs
    · exact fun h => hset (Option.some.inj h)
    · exact hs.remoteSubscriptionDeliveryClasses key
  unfold Bus.replaceRemoteSubscription
  dsimp only
  generalize hfiltered : ((context.remoteRequestHandlers.get? subject).getD []).filter
    (fun entry => entry.transport ≠ source) ++
      priorities.map (fun priority => (⟨source, priority⟩ : RemoteRoute)) = filtered
  have hroutes : ∀ key, (if 0 < filtered.length then
      context.remoteRequestHandlers.set subject filtered
      else context.remoteRequestHandlers.delete subject).get? key ≠ some [] := by
    have h := ne_some_nil_delete_or_set subject (l := filtered) (c := ¬ 0 < filtered.length)
      (by simp) hs.remoteRequestHandlers
    simpa only [ite_not] using h
  by_cases hempty : priorities.length = 0
  · rw [if_pos hempty]
    refine ⟨hroutes, fun key => ?_, hclasses⟩
    dsimp only
    rw [OrderedMap.get?_set]
    by_cases hkey : key = subject
    · rw [if_pos hkey]
      intro h
      have hlist := Option.some.inj h
      split_ifs at hlist with hmem
      · rw [hlist] at hmem
        cases hmem
      · simp at hlist
    · rw [if_neg hkey]
      exact hs.remoteEventHandlers key
  · rw [if_neg hempty]
    have hstored : NoEmptyContainer { context with
        remoteRequestHandlers := if 0 < filtered.length then
          context.remoteRequestHandlers.set subject filtered
          else context.remoteRequestHandlers.delete subject
        remoteSubscriptionDeliveryClasses := context.remoteSubscriptionDeliveryClasses.set subject
          (((context.remoteSubscriptionDeliveryClasses.get? subject).getD .empty).set source
            deliveryClass) } := ⟨hroutes, hs.remoteEventHandlers, hclasses⟩
    exact hstored.removeRemoteEventSubscription source subject

/-- A map of delivery classes without entries. -/
private lemma eq_empty_iff {m : OrderedMap String SubscriptionDeliveryClass} :
    m.entries.length = 0 ↔ m = .empty := by
  obtain ⟨entries, hnodup⟩ := m
  simp [OrderedMap.empty]

lemma NoEmptyContainer.removeRemoteSubscription (hs : NoEmptyContainer context) (subject : Key) :
    NoEmptyContainer (removeRemoteSubscription source context subject) := by
  have hroutes : NoEmptyContainer (removeRemoteRoutes context subject source) := by
    unfold removeRemoteRoutes
    split
    · exact hs
    · exact { hs with
        remoteRequestHandlers := ne_some_nil_delete_or_set subject (by simp) hs.remoteRequestHandlers }
  have hevents := hroutes.removeRemoteEventSubscription source subject
  unfold Bus.removeRemoteSubscription removeDeliveryClass
  dsimp only
  split
  · exact hevents
  · refine { hevents with remoteSubscriptionDeliveryClasses := fun key => ?_ }
    split_ifs with hempty
    · rw [OrderedMap.get?_delete]
      split_ifs
      · simp
      · exact hevents.remoteSubscriptionDeliveryClasses key
    · rw [OrderedMap.get?_set]
      split_ifs
      · exact fun h => hempty (eq_empty_iff.mpr (Option.some.inj h))
      · exact hevents.remoteSubscriptionDeliveryClasses key

end OneKey

/-! ### All keys of a transport -/

section Purge

variable {H α : Type} {drop : Key × α → Prop} [DecidablePred drop] {value : Key × α → α}
variable {entries : List (Key × α)}

/-- Keys that are not visited keep their values. -/
lemma get?_foldl_delete_or_set_of_not_mem (hkey : ∀ e ∈ entries, e.1 ≠ key) :
    ∀ {m : OrderedMap Key α}, (entries.foldl (fun map e =>
      if drop e then map.delete e.1 else map.set e.1 (value e)) m).get? key = m.get? key := by
  induction entries with
  | nil => intro m; rfl
  | cons e entries ih =>
    intro m
    have hne : key ≠ e.1 := fun h => hkey e (by simp) h.symm
    rw [List.foldl_cons, ih fun e' he' => hkey e' (by simp [he'])]
    split_ifs
    · rw [OrderedMap.get?_delete_of_ne _ hne]
    · rw [OrderedMap.get?_set_of_ne _ _ hne]

/-- A key that is visited once is dropped or gets its new value. -/
lemma get?_foldl_delete_or_set_of_mem {v : α} (hnodup : (entries.map Prod.fst).Nodup)
    (hmem : (key, v) ∈ entries) :
    ∀ {m : OrderedMap Key α}, (entries.foldl (fun map e =>
      if drop e then map.delete e.1 else map.set e.1 (value e)) m).get? key =
        if drop (key, v) then none else some (value (key, v)) := by
  induction entries with
  | nil => cases hmem
  | cons e entries ih =>
    intro m
    rw [List.map_cons, List.nodup_cons] at hnodup
    rw [List.foldl_cons]
    rcases List.mem_cons.mp hmem with rfl | hmem
    · have hfresh : ∀ e' ∈ entries, e'.1 ≠ key :=
        fun e' he' h => hnodup.1 (List.mem_map.mpr ⟨e', he', h⟩)
      rw [get?_foldl_delete_or_set_of_not_mem hfresh]
      split_ifs
      · rw [OrderedMap.get?_delete_self]
      · rw [OrderedMap.get?_set_self]
    · exact ih hnodup.2 hmem

/-- Visiting the selected entries of a map itself. -/
lemma get?_foldl_filter_entries (m : OrderedMap Key α) (selected : Key × α → Bool) (key : Key) :
    ((m.entries.filter selected).foldl (fun map e =>
      if drop e then map.delete e.1 else map.set e.1 (value e)) m).get? key =
        (m.get? key).bind fun v =>
          if selected (key, v) then if drop (key, v) then none else some (value (key, v))
          else some v := by
  cases hget : m.get? key with
  | none =>
    rw [get?_foldl_delete_or_set_of_not_mem, hget]
    · rfl
    · rintro e he rfl
      have h := OrderedMap.mem_entries_iff.mp (List.mem_filter.mp he).1
      rw [hget] at h
      cases h
  | some v =>
    rw [Option.bind_some]
    split_ifs with hselected hdrop
    · rw [get?_foldl_delete_or_set_of_mem (m.nodup.sublist (List.filter_sublist.map _))
        (List.mem_filter.mpr ⟨OrderedMap.mem_entries_iff.mpr hget, hselected⟩), if_pos hdrop]
    · rw [get?_foldl_delete_or_set_of_mem (m.nodup.sublist (List.filter_sublist.map _))
        (List.mem_filter.mpr ⟨OrderedMap.mem_entries_iff.mpr hget, hselected⟩), if_neg hdrop]
    · rw [get?_foldl_delete_or_set_of_not_mem, hget]
      rintro ⟨key', v'⟩ he rfl
      obtain ⟨hmem, hselected'⟩ := List.mem_filter.mp he
      rw [OrderedMap.mem_entries_iff, hget] at hmem
      cases hmem
      exact hselected hselected'

/-- Purging lists: the elements of the purged transport are gone from each list, and empty lists are
dropped. -/
private lemma get?_purge_list {β : Type} (m : OrderedMap Key (List β)) {f : β → String} {n : String}
    {s : Key × List β → Bool} (hm : m.get? key ≠ some [])
    (hselected : ∀ l, s (key, l) = true ↔ ∃ b ∈ l, f b = n) :
    (((m.entries.filter s).foldl (fun map e =>
        if (e.2.filter fun b => f b ≠ n).length = 0 then map.delete e.1
        else map.set e.1 (e.2.filter fun b => f b ≠ n)) m).get? key).getD [] =
        ((m.get? key).getD []).filter (fun b => f b ≠ n) ∧
      ((m.entries.filter s).foldl (fun map e =>
        if (e.2.filter fun b => f b ≠ n).length = 0 then map.delete e.1
        else map.set e.1 (e.2.filter fun b => f b ≠ n)) m).get? key ≠ some [] := by
  rw [get?_foldl_filter_entries m s key]
  cases hget : m.get? key with
  | none => simp
  | some l =>
    rw [Option.bind_some]
    split_ifs with hsel hempty
    · have hnil := List.length_eq_zero_iff.mp hempty
      exact ⟨hnil.symm, by simp⟩
    · exact ⟨rfl, fun h => hempty (by rw [Option.some.inj h]; rfl)⟩
    · have hall : ∀ b ∈ l, decide (f b ≠ n) = true :=
        fun b hb => decide_eq_true fun h => hsel ((hselected l).mpr ⟨b, hb, h⟩)
      exact ⟨(List.filter_eq_self.mpr hall).symm, fun h => hm (hget.trans h)⟩

/-- Purging delivery classes. -/
private lemma get?_purge_classes (m : OrderedMap Key (OrderedMap String SubscriptionDeliveryClass))
    (name : String) (hm : m.get? key ≠ some .empty) (transport : String) :
    (((m.entries.filter fun e => e.2.has name).foldl (fun map e =>
        if (e.2.delete name).entries.length = 0 then map.delete e.1
        else map.set e.1 (e.2.delete name)) m).get? key).bind (fun d => d.get? transport) =
        (if transport = name then none else (m.get? key).bind fun d => d.get? transport) ∧
      ((m.entries.filter fun e => e.2.has name).foldl (fun map e =>
        if (e.2.delete name).entries.length = 0 then map.delete e.1
        else map.set e.1 (e.2.delete name)) m).get? key ≠ some .empty := by
  rw [get?_foldl_filter_entries m (fun e => e.2.has name) key]
  cases hget : m.get? key with
  | none => simp
  | some d =>
    have hdelete := OrderedMap.get?_delete d name transport
    rw [Option.bind_some, Option.bind_some, ← hdelete]
    by_cases hsel : d.has name = true
    · rw [if_pos hsel]
      by_cases hempty : (d.delete name).entries.length = 0
      · rw [if_pos hempty, eq_empty_iff.mp hempty]
        exact ⟨rfl, by simp⟩
      · rw [if_neg hempty]
        exact ⟨rfl, fun h => hempty (eq_empty_iff.mpr (Option.some.inj h))⟩
    · rw [if_neg hsel]
      refine ⟨?_, fun h => hm (hget.trans h)⟩
      rw [Option.bind_some, hdelete]
      split_ifs with hname
      · by_contra hne
        obtain ⟨v, hv⟩ := Option.ne_none_iff_exists'.mp hne
        exact hsel (OrderedMap.has_iff.mpr ⟨v, hname ▸ hv⟩)
      · rfl

variable {context : BusContext H}

/-- The three maps after a purge. -/
private lemma purge_maps (hs : NoEmptyContainer context) (name : String) (key : Key) :
    (((purgeRemoteHandlersForTransport context name).1.remoteRequestHandlers.get? key).getD [] =
        ((context.remoteRequestHandlers.get? key).getD []).filter
          fun entry => entry.transport ≠ name) ∧
      (((purgeRemoteHandlersForTransport context name).1.remoteEventHandlers.get? key).getD [] =
        ((context.remoteEventHandlers.get? key).getD []).filter fun other => other ≠ name) ∧
      (∀ transport, deliveryClass? (purgeRemoteHandlersForTransport context name).1 key transport =
        if transport = name then none else deliveryClass? context key transport) ∧
      (purgeRemoteHandlersForTransport context name).1.remoteRequestHandlers.get? key ≠ some [] ∧
      (purgeRemoteHandlersForTransport context name).1.remoteEventHandlers.get? key ≠ some [] ∧
      (purgeRemoteHandlersForTransport context name).1.remoteSubscriptionDeliveryClasses.get? key ≠
        some .empty := by
  obtain ⟨hroutes, hroutes'⟩ := get?_purge_list context.remoteRequestHandlers
    (f := RemoteRoute.transport) (n := name) (s := fun e => e.2.any fun entry =>
      entry.transport = name) (hs.remoteRequestHandlers key) (by simp)
  obtain ⟨hevents, hevents'⟩ := get?_purge_list context.remoteEventHandlers (f := id) (n := name)
    (s := fun e => name ∈ e.2) (hs.remoteEventHandlers key) (by simp)
  have hclasses := get?_purge_classes context.remoteSubscriptionDeliveryClasses name
    (hs.remoteSubscriptionDeliveryClasses key)
  exact ⟨hroutes, hevents, fun transport => (hclasses transport).1, hroutes', hevents',
    (hclasses name).2⟩

lemma NoEmptyContainer.purge (hs : NoEmptyContainer context) (name : String) :
    NoEmptyContainer (purgeRemoteHandlersForTransport context name).1 where
  remoteRequestHandlers key := (purge_maps hs name key).2.2.2.1
  remoteEventHandlers key := (purge_maps hs name key).2.2.2.2.1
  remoteSubscriptionDeliveryClasses key := (purge_maps hs name key).2.2.2.2.2

/-- **A purge** removes the transport from every view, and nothing else changes. -/
theorem remoteView_purge (hs : NoEmptyContainer context) (name : String) (key : Key)
    (transport : String) :
    remoteView (purgeRemoteHandlersForTransport context name).1 key transport =
      if transport = name then RemoteView.ofSubscription none
      else remoteView context key transport := by
  obtain ⟨hroutes, hevents, hclasses, -⟩ := purge_maps hs name key
  have hfilter := filter_routes_source name ((context.remoteRequestHandlers.get? key).getD []) [] transport
  rw [List.map_nil, List.append_nil] at hfilter
  unfold remoteView
  rw [hroutes, hevents, hclasses, hfilter]
  by_cases hname : transport = name
  · simp [hname, RemoteView.ofSubscription]
  · simp [hname]

end Purge

/-! ### Sequences of operations -/

section Sequences

variable {H : Type} {context : BusContext H}

/-- The views after a subscribe message: those of its keys are new. -/
lemma remoteView_foldl_replace (source : String) (classOf : Key → SubscriptionDeliveryClass)
    (key : Key) (transport : String) {entries : List (Key × List ℤ)}
    (hnodup : (entries.map Prod.fst).Nodup) :
    ∀ context : BusContext H, remoteView (entries.foldl (fun context e =>
        replaceRemoteSubscription source e.1 e.2 (classOf e.1) context) context) key transport =
      match (entries.find? fun e => e.1 = key).map Prod.snd with
      | some priorities =>
        if transport = source then RemoteView.ofSubscription (some (priorities, classOf key))
        else remoteView context key transport
      | none => remoteView context key transport := by
  induction entries with
  | nil => intro context; rfl
  | cons e entries ih =>
    intro context
    rw [List.map_cons, List.nodup_cons] at hnodup
    rw [List.foldl_cons, ih hnodup.2, remoteView_replaceRemoteSubscription]
    by_cases hkey : e.1 = key
    · -- the keys are distinct, so the rest of the message does not touch this one
      have hrest : (entries.find? fun e' => e'.1 = key) = none := by
        refine List.find?_eq_none.mpr fun e' he' h => hnodup.1 ?_
        exact List.mem_map.mpr ⟨e', he', (of_decide_eq_true h).trans hkey.symm⟩
      rw [List.find?_cons_of_pos (by simpa using hkey), hrest, hkey]
      simp
    · have hkey' : ¬ key = e.1 := fun h => hkey h.symm
      rw [List.find?_cons_of_neg (by simpa using hkey)]
      simp only [hkey', false_and, if_false]

/-- The views after an unsubscribe message: those of its keys are gone. -/
lemma remoteView_foldl_remove (source : String) (subjects : List Key) :
    ∀ {context : BusContext H}, remoteView (subjects.foldl (removeRemoteSubscription source) context)
        key transport =
      if transport = source ∧ key ∈ subjects then RemoteView.ofSubscription none
      else remoteView context key transport := by
  induction subjects with
  | nil => intro context; simp
  | cons subject subjects ih =>
    intro context
    rw [List.foldl_cons, ih, remoteView_removeRemoteSubscription]
    by_cases hkey : key = subject <;> by_cases hsource : transport = source <;>
      by_cases hmem : key ∈ subjects <;> simp [hkey, hsource, hmem]

/-- Operations store no empty container. -/
theorem NoEmptyContainer.remoteStep (hs : NoEmptyContainer context) (operation : RemoteOperation) :
    NoEmptyContainer (remoteStep context operation) := by
  cases operation with
  | subscribe transportName message =>
    show NoEmptyContainer (message.subjects.entries.foldl _ context)
    generalize message.subjects.entries = entries
    induction entries generalizing context with
    | nil => exact hs
    | cons e entries ih => exact ih (hs.replaceRemoteSubscription _ _ _)
  | unsubscribe transportName message =>
    show NoEmptyContainer (message.subjects.foldl _ context)
    generalize message.subjects = subjects
    induction subjects generalizing context with
    | nil => exact hs
    | cons subject subjects ih => exact ih (hs.removeRemoteSubscription _)
  | purge transportName => exact hs.purge transportName

/-- **One operation** updates the views as it updates the valid subscriptions. -/
theorem remoteView_remoteStep (hs : NoEmptyContainer context)
    {last : Key → String → Option RemoteSubscription}
    (hlast : ∀ key transport, remoteView context key transport =
      RemoteView.ofSubscription (last key transport)) (operation : RemoteOperation) (key : Key)
    (transport : String) :
    remoteView (remoteStep context operation) key transport =
      RemoteView.ofSubscription (operation.update last key transport) := by
  cases operation with
  | subscribe transportName message =>
    have h := remoteView_foldl_replace transportName
      (fun key => normalizeSubscriptionDeliveryClass (message.deliveryClasses.get? key))
      key transport message.subjects.nodup context
    refine h.trans ?_
    unfold RemoteOperation.update OrderedMap.get?
    dsimp only
    split
    · split_ifs
      · rfl
      · exact hlast key transport
    · exact hlast key transport
  | unsubscribe transportName message =>
    refine (remoteView_foldl_remove transportName message.subjects).trans ?_
    rw [RemoteOperation.update, hlast]
    split_ifs <;> rfl
  | purge transportName =>
    refine (remoteView_purge hs transportName key transport).trans ?_
    rw [RemoteOperation.update, hlast]
    split_ifs <;> rfl

/-- The priorities of a view are those of the routes. -/
lemma mem_priorities_remoteView {p : ℤ} :
    p ∈ (remoteView context key transport).priorities ↔ HasRoute context key ⟨transport, p⟩ := by
  rw [hasRoute_iff_getD]
  unfold remoteView
  rw [List.mem_map]
  constructor
  · rintro ⟨route, hroute, rfl⟩
    obtain ⟨hmem, htransport⟩ := List.mem_filter.mp hroute
    rwa [← of_decide_eq_true htransport]
  · intro h
    exact ⟨_, List.mem_filter.mpr ⟨h, by simp⟩, rfl⟩

/-- A transport is among the event transports of a key. -/
lemma eventOnly_remoteView :
    (remoteView context key transport).eventOnly = true ↔
      transport ∈ (context.remoteEventHandlers.get? key).getD [] :=
  decide_eq_true_iff

/-- A context with an empty remote registry. -/
def withoutRemote (context : BusContext H) : BusContext H :=
  { context with
    remoteRequestHandlers := .empty
    remoteEventHandlers := .empty
    remoteSubscriptionDeliveryClasses := .empty }

/-- **The three maps refine the valid subscriptions** after every sequence of operations. -/
theorem remoteView_runRemote (context : BusContext H) (operations : List RemoteOperation) :
    NoEmptyContainer (runRemote (withoutRemote context) operations) ∧
      ∀ key transport, remoteView (runRemote (withoutRemote context) operations) key transport =
        RemoteView.ofSubscription (lastSubscription operations key transport) := by
  induction operations using List.reverseRecOn with
  | nil => exact ⟨⟨by simp [runRemote, withoutRemote], by simp [runRemote, withoutRemote],
      by simp [runRemote, withoutRemote]⟩, fun key transport => rfl⟩
  | append_singleton operations operation ih =>
    obtain ⟨hempty, hviews⟩ := ih
    rw [runRemote, lastSubscription, List.foldl_append, List.foldl_append]
    exact ⟨hempty.remoteStep operation, remoteView_remoteStep hempty hviews operation⟩

/-- **Consistency of the remote registry.**  After every sequence of operations a transport has a
request route or is among the event transports of a key exactly if it has a delivery class there; it
is among the event transports exactly if its last subscription had no priorities; its priorities are
those of its last subscription; and no container is stored empty.  A purge then leaves nothing of the
transport, and changes nothing of the others. -/
theorem remoteRegistry_consistent (context : BusContext H) (operations : List RemoteOperation) :
    let final := runRemote (withoutRemote context) operations
    let last := lastSubscription operations
    (∀ key transport,
      ((∃ route, HasRoute final key route ∧ route.transport = transport) ∨
          transport ∈ (final.remoteEventHandlers.get? key).getD []) ↔
        (deliveryClass? final key transport).isSome = true) ∧
    (∀ key transport, transport ∈ (final.remoteEventHandlers.get? key).getD [] ↔
      ∃ deliveryClass, last key transport = some ([], deliveryClass)) ∧
    (∀ key transport, (remoteView final key transport).priorities =
      ((last key transport).map Prod.fst).getD []) ∧
    NoEmptyContainer final ∧
    ∀ name, let purged := (purgeRemoteHandlersForTransport final name).1
      (∀ key, (∀ route, HasRoute purged key route → route.transport ≠ name) ∧
        name ∉ (purged.remoteEventHandlers.get? key).getD [] ∧
        deliveryClass? purged key name = none) ∧
      ∀ key transport, transport ≠ name →
        remoteView purged key transport = remoteView final key transport := by
  obtain ⟨hempty, hviews⟩ := remoteView_runRemote context operations
  set final := runRemote (withoutRemote context) operations
  have hroute : ∀ {context : BusContext H} {key : Key} {transport : String},
      (∃ route, HasRoute context key route ∧ route.transport = transport) ↔
        (remoteView context key transport).priorities ≠ [] := by
    intro context key transport
    constructor
    · rintro ⟨route, hroute, rfl⟩
      exact List.ne_nil_of_mem (mem_priorities_remoteView.mpr hroute)
    · intro h
      obtain ⟨p, hp⟩ := List.exists_mem_of_ne_nil _ h
      exact ⟨_, mem_priorities_remoteView.mp hp, rfl⟩
  refine ⟨fun key transport => ?_, fun key transport => ?_, fun key transport => ?_, hempty,
    fun name => ⟨fun key => ?_, fun key transport hne => ?_⟩⟩
  · rw [hroute, ← eventOnly_remoteView]
    show _ ↔ (remoteView final key transport).deliveryClass.isSome = true
    rw [hviews]
    rcases lastSubscription operations key transport with _ | ⟨_ | ⟨p, priorities⟩, deliveryClass⟩ <;>
      simp [RemoteView.ofSubscription]
  · rw [← eventOnly_remoteView, hviews]
    rcases lastSubscription operations key transport with _ | ⟨_ | ⟨p, priorities⟩, deliveryClass⟩ <;>
      simp [RemoteView.ofSubscription]
  · rw [hviews]
    rcases lastSubscription operations key transport with _ | ⟨priorities, deliveryClass⟩ <;> rfl
  · have hview := remoteView_purge hempty name key name
    rw [if_pos rfl] at hview
    refine ⟨fun route hmem hname => ?_, fun hmem => ?_, ?_⟩
    · have hne := hroute.mp ⟨route, hmem, hname⟩
      rw [hview] at hne
      exact hne rfl
    · have h := eventOnly_remoteView.mpr hmem
      rw [hview] at h
      exact absurd h (by simp [RemoteView.ofSubscription])
    · exact congrArg RemoteView.deliveryClass hview
  · exact (remoteView_purge hempty name key transport).trans (if_neg hne)

end Sequences

end Makaio.Bus
