import Makaio.Foundations.OrderedMap
import Makaio.Bus.Subject
import Makaio.Bus.PayloadFilter

set_option autoImplicit false

/-!
# Delivery by subscriptions

A client names the subjects it wants by patterns, and may attach a payload filter to each of them.  The
server decides per message (`utils/transport-helpers.ts`) in two passes: over the patterns, whether one of
them matches the subject, and over the filters, whether all those whose pattern matches accept the payload.
The subscriptions of a client are alternatives, so a message should be delivered when one of them wants it.
The two decisions differ where patterns overlap and their filters disagree.

## Main definitions

* `shouldReceiveMessage` — the decision.
* `Subscriptions`, `Subscriptions.receives` — what a client subscribed to, and the decision on it.
* `Subscriptions.Wants` — a subscription matches the subject and its own filter accepts.
* `Subscriptions.Agrees` — the overlapping subscriptions agree on the payload.

## Main results

* `delivery_union_iff` — the decision is the union of the subscriptions exactly when they agree,
  and a new subscription keeps what was delivered exactly when it does not reject it.
* `delivery_not_union` — two overlapping subscriptions, one of which rejects.
-/

namespace Makaio.Bus

open Foundations

/-- Check if a client wants to receive a message based on its subscription patterns and its payload filters
by pattern.  Without subscriptions it receives all; a message without a subject, or without a payload, is
not checked against them. -/
def shouldReceiveMessage (subject : Option Key) (payload : Option Json) (subscriptions : List Key)
    (filters : List (Key × PayloadFilter)) : Bool :=
  match subject with
  | none => true
  | some subject =>
    if subject = "" then true
    else if !subscriptions.isEmpty && !subscriptions.any (matchesSubscription subject) then false
    else payload.isNone || filters.all fun filter =>
      !(filter.1 = subject || matchesSubscription subject filter.1) || matchesFilter payload filter.2

/-- What a client subscribed to: its patterns, each with a payload filter or none. -/
abbrev Subscriptions := OrderedMap Key (Option PayloadFilter)

namespace Subscriptions

/-- The payload filters, by pattern. -/
def filters (s : Subscriptions) : List (Key × PayloadFilter) :=
  s.entries.filterMap fun e => e.2.map fun filter => (e.1, filter)

/-- The subscriptions after a further one. -/
def subscribe (s : Subscriptions) (pattern : Key) (filter : Option PayloadFilter) : Subscriptions :=
  OrderedMap.set s pattern filter

/-- Whether the client receives a message. -/
def receives (s : Subscriptions) (subject : Key) (payload : Option Json) : Bool :=
  shouldReceiveMessage (some subject) payload s.keys s.filters

/-- A subscription's filter accepts a payload; without a filter, every payload. -/
def Accepts (payload : Option Json) (filter : Option PayloadFilter) : Prop :=
  ∀ f, filter = some f → matchesFilter payload f = true

instance (payload : Option Json) (filter : Option PayloadFilter) : Decidable (Accepts payload filter) :=
  match filter with
  | none => isTrue fun _ h => by cases h
  | some f => decidable_of_iff (matchesFilter payload f = true) (by simp [Accepts])

/-- A subscription of the client applies to a subject. -/
def Applies (s : Subscriptions) (subject pattern : Key) (filter : Option PayloadFilter) : Prop :=
  s.get? pattern = some filter ∧ matchesSubscription subject pattern = true

/-- The client wants a message: a subscription applies to the subject and accepts the payload. -/
def Wants (s : Subscriptions) (subject : Key) (payload : Option Json) : Prop :=
  ∃ pattern filter, s.Applies subject pattern filter ∧ Accepts payload filter

/-- The filter of a pattern is checked for a subject: the pattern matches the subject, or is written like
it (then it matches too, unless the subject itself ends with a wildcard). -/
def IsChecked (subject pattern : Key) : Prop :=
  pattern = subject ∨ matchesSubscription subject pattern = true

/-- The subscriptions that bear on a subject agree on the payload: when one that applies accepts it, none
rejects it.  A message without a payload is not filtered, so there one that applies must accept; one with
the empty subject is not checked at all. -/
def Agrees (s : Subscriptions) (subject : Key) (payload : Option Json) : Prop :=
  if subject = "" then s.Wants subject payload
  else if payload.isNone then ∀ pattern filter, s.Applies subject pattern filter → s.Wants subject payload
  else ∀ pattern filter pattern' filter', s.Applies subject pattern filter → Accepts payload filter →
    s.get? pattern' = some filter' → IsChecked subject pattern' → Accepts payload filter'

/-- A subscription does not stop a message. -/
def Admits (subject : Key) (payload : Option Json) (pattern : Key) (filter : Option PayloadFilter) : Prop :=
  subject ≠ "" → payload.isSome = true → IsChecked subject pattern → Accepts payload filter

variable {s : Subscriptions} {subject pattern : Key} {payload : Option Json}
  {filter : Option PayloadFilter}

/-! ### The decision -/

/-- A filter is listed exactly when its subscription has it. -/
lemma mem_filters {f : PayloadFilter} : (pattern, f) ∈ s.filters ↔ s.get? pattern = some (some f) := by
  rw [filters, List.mem_filterMap, ← OrderedMap.mem_entries_iff]
  constructor
  · rintro ⟨⟨p, filter⟩, hmem, heq⟩
    cases filter with
    | none => cases heq
    | some g =>
      cases heq
      exact hmem
  · exact fun hmem => ⟨(pattern, some f), hmem, rfl⟩

/-- Some pattern matches exactly when a subscription applies. -/
lemma any_matches_iff :
    s.keys.any (matchesSubscription subject) = true ↔ ∃ pattern filter, s.Applies subject pattern filter := by
  simp only [List.any_eq_true, OrderedMap.mem_keys_iff, Applies]
  constructor
  · rintro ⟨p, ⟨f, hf⟩, hm⟩
    exact ⟨p, f, hf, hm⟩
  · rintro ⟨p, f, hf, hm⟩
    exact ⟨p, ⟨f, hf⟩, hm⟩

/-- The filters pass exactly when every subscription that is checked accepts. -/
lemma all_filters_iff :
    (s.filters.all fun filter => !(filter.1 = subject || matchesSubscription subject filter.1) ||
        matchesFilter payload filter.2) = true ↔
      ∀ pattern filter, s.get? pattern = some filter → IsChecked subject pattern →
        Accepts payload filter := by
  simp only [List.all_eq_true, Prod.forall, mem_filters, Bool.or_eq_true, Bool.not_eq_true',
    Bool.or_eq_false_iff, decide_eq_false_iff_not, IsChecked]
  constructor
  · rintro h pattern filter hget hcheck f rfl
    refine (h pattern f hget).resolve_left fun hunchecked => ?_
    rcases hcheck with heq | hm
    · exact hunchecked.1 heq
    · exact Bool.false_ne_true (hunchecked.2.symm.trans hm)
  · intro h pattern f hget
    by_cases hcheck : pattern = subject ∨ matchesSubscription subject pattern = true
    · exact Or.inr (h pattern (some f) hget hcheck f rfl)
    · exact Or.inl ⟨fun heq => hcheck (Or.inl heq), Bool.eq_false_iff.mpr fun hm => hcheck (Or.inr hm)⟩

/-- What is delivered to a client with subscriptions: a message with the empty subject, and one to whose
subject a subscription applies, if it has no payload or no checked filter rejects it. -/
lemma receives_iff (hne : s.keys ≠ []) :
    s.receives subject payload = true ↔ subject = "" ∨ (∃ pattern filter, s.Applies subject pattern filter) ∧
      (payload.isNone = true ∨ ∀ pattern filter, s.get? pattern = some filter →
        IsChecked subject pattern → Accepts payload filter) := by
  by_cases hempty : subject = ""
  · simp [receives, shouldReceiveMessage, hempty]
  · have hsome : s.keys.isEmpty = false := by simpa using hne
    rw [receives, shouldReceiveMessage, if_neg hempty, hsome, or_iff_right hempty, ← any_matches_iff,
      ← all_filters_iff, ← Bool.or_eq_true, ← Bool.and_eq_true]
    cases s.keys.any (matchesSubscription subject) <;> simp

/-- What a client wants applies to its subject. -/
lemma Wants.applies (h : s.Wants subject payload) : ∃ pattern filter, s.Applies subject pattern filter :=
  let ⟨pattern, filter, happlies, _⟩ := h
  ⟨pattern, filter, happlies⟩

/-- The delivery is the union of the subscriptions exactly when they agree. -/
lemma receives_iff_wants_iff (hne : s.keys ≠ []) :
    (s.receives subject payload = true ↔ s.Wants subject payload) ↔ s.Agrees subject payload := by
  rw [receives_iff hne, Agrees]
  split_ifs with hempty hnone
  · simp [hempty]
  · simp only [hempty, hnone, true_or, and_true, false_or]
    constructor
    · exact fun h pattern filter happlies => h.mp ⟨pattern, filter, happlies⟩
    · refine fun h => ⟨?_, Wants.applies⟩
      rintro ⟨pattern, filter, happlies⟩
      exact h pattern filter happlies
  · rw [or_iff_right hempty]
    constructor
    · intro h pattern filter pattern' filter' happlies haccepts
      exact ((h.mpr ⟨pattern, filter, happlies, haccepts⟩).2.resolve_left hnone) pattern' filter'
    · intro h
      constructor
      · rintro ⟨⟨pattern, filter, happlies⟩, hall⟩
        exact ⟨pattern, filter, happlies,
          hall.resolve_left hnone pattern filter happlies.1 (Or.inr happlies.2)⟩
      · rintro ⟨pattern, filter, happlies, haccepts⟩
        exact ⟨⟨pattern, filter, happlies⟩,
          Or.inr fun pattern' filter' => h pattern filter pattern' filter' happlies haccepts⟩

/-! ### A further subscription -/

lemma get?_subscribe (pattern' : Key) :
    (s.subscribe pattern filter).get? pattern' = if pattern' = pattern then some filter else s.get? pattern' :=
  OrderedMap.get?_set s pattern pattern' filter

/-- There is a subscription after subscribing. -/
lemma keys_subscribe_ne_nil : (s.subscribe pattern filter).keys ≠ [] := fun h => by
  have hmem : pattern ∈ (s.subscribe pattern filter).keys :=
    OrderedMap.mem_keys_iff.mpr ⟨filter, OrderedMap.get?_set_self s pattern filter⟩
  rw [h] at hmem
  exact List.not_mem_nil hmem

/-- A further subscription keeps a message that is delivered exactly when it does not reject it. -/
lemma receives_subscribe_iff (hne : s.keys ≠ []) (hnew : s.get? pattern = none)
    (hreceives : s.receives subject payload = true) :
    (s.subscribe pattern filter).receives subject payload = true ↔ Admits subject payload pattern filter := by
  rw [receives_iff hne] at hreceives
  rw [receives_iff keys_subscribe_ne_nil, Admits]
  rcases hreceives with hempty | ⟨⟨p, f, hget, hmatches⟩, hall⟩
  · exact ⟨fun _ hsubject => absurd hempty hsubject, fun _ => Or.inl hempty⟩
  · have hother : ∀ {p' f'}, s.get? p' = some f' → (s.subscribe pattern filter).get? p' = some f' := by
      intro p' f' hp'
      have hdiffer : p' ≠ pattern := fun heq => by
        rw [heq, hnew] at hp'
        cases hp'
      rw [get?_subscribe, if_neg hdiffer, hp']
    constructor
    · rintro (hempty | ⟨-, hnone | hall'⟩) hsubject hsome hcheck
      · exact absurd hempty hsubject
      · rw [Option.isNone_iff_eq_none.mp hnone] at hsome
        cases hsome
      · exact hall' pattern filter (OrderedMap.get?_set_self s pattern filter) hcheck
    · intro hadmits
      by_cases hempty : subject = ""
      · exact Or.inl hempty
      refine Or.inr ⟨⟨p, f, hother hget, hmatches⟩, ?_⟩
      cases payload with
      | none => exact Or.inl rfl
      | some value =>
        refine Or.inr fun pattern' filter' hget' hcheck => ?_
        rw [get?_subscribe] at hget'
        split_ifs at hget' with heq
        · rw [← Option.some.inj hget']
          exact hadmits hempty rfl (heq ▸ hcheck)
        · exact hall.resolve_left (by simp) pattern' filter' hget' hcheck

end Subscriptions

open Subscriptions

/-- **Delivery as the union of the subscriptions.**  A client with subscriptions receives exactly the
messages that one of them wants, if and only if those that bear on the subject agree on the payload; and a
further subscription keeps what was delivered if and only if it does not reject it.

**Proof sketch.**  `Subscriptions.receives_iff` states the two passes as one condition: some pattern
matches, and every filter that is checked accepts.  Against the union only the second half is too strong. -/
theorem delivery_union_iff (s : Subscriptions) (hne : s.keys ≠ []) (subject : Key) (payload : Option Json) :
    ((s.receives subject payload = true ↔ s.Wants subject payload) ↔ s.Agrees subject payload) ∧
    ∀ pattern filter, s.get? pattern = none →
      ((s.receives subject payload = true → (s.subscribe pattern filter).receives subject payload = true) ↔
        (s.receives subject payload = true → Admits subject payload pattern filter)) :=
  ⟨receives_iff_wants_iff hne, fun _ _ hnew =>
    forall_congr' fun hreceives => receives_subscribe_iff hne hnew hreceives⟩

/-- A client that subscribed to every subject of a namespace, and to one of them for one agent. -/
def overlapping : Subscriptions :=
  (subscribe .empty "agent.*" none).subscribe "agent.log" (some [("id", .equals (.str "a"))])

/-- An event of another agent. -/
def otherAgent : Option Json := some (.obj [("id", .str "b")])

/-- The union and its exception at overlapping subscriptions. -/
theorem delivery_union_iff_overlapping :
    ((overlapping.receives "agent.log" otherAgent = true ↔ overlapping.Wants "agent.log" otherAgent) ↔
      overlapping.Agrees "agent.log" otherAgent) ∧
    ((overlapping.receives "agent.done" otherAgent = true →
        (overlapping.subscribe "agent.done" none).receives "agent.done" otherAgent = true) ↔
      (overlapping.receives "agent.done" otherAgent = true →
        Admits "agent.done" otherAgent "agent.done" none)) :=
  ⟨(delivery_union_iff overlapping (by decide) "agent.log" otherAgent).1,
    (delivery_union_iff overlapping (by decide) "agent.done" otherAgent).2 "agent.done" none (by decide)⟩

/-- The filter for one agent rejects the event of another. -/
lemma matchesFilter_otherAgent : matchesFilter otherAgent [("id", .equals (.str "a"))] = false := by
  have hsplit : "id".splitOn "." = ["id"] := by
    rw [String.splitOn, if_neg (by decide), String.splitOnAux, if_neg (by decide), if_neg (by decide),
      String.splitOnAux, if_neg (by decide), if_neg (by decide), String.splitOnAux, if_pos (by decide)]
    decide
  rw [matchesFilter, List.all_cons, getPath, hsplit]
  decide

/-- **A message that a subscription wants is not delivered**, and the subscription that stops it was added
last. -/
theorem delivery_not_union :
    overlapping.Wants "agent.log" otherAgent ∧ overlapping.receives "agent.log" otherAgent = false ∧
    (subscribe .empty "agent.*" none).receives "agent.log" otherAgent = true := by
  refine ⟨⟨"agent.*", none, ⟨by decide, by decide⟩, fun _ h => by cases h⟩, ?_, by decide⟩
  refine Bool.eq_false_iff.mpr fun hreceives => ?_
  rcases (receives_iff (by decide)).mp hreceives with hempty | ⟨-, hnone | hall⟩
  · simp at hempty
  · cases hnone
  · have haccepts := hall "agent.log" _ rfl (Or.inl rfl) _ rfl
    exact Bool.false_ne_true (matchesFilter_otherAgent.symm.trans haccepts)

end Makaio.Bus
