import Makaio.Foundations.Machine
import Makaio.Bus.HandlerMap

set_option autoImplicit false

/-!
# The subscription registry

`on()` registers a handler under a subject key in one or both handler maps and returns an
unsubscribe function (`methods/on.ts`).  The unsubscribe function does not remember which entry
it added: it removes, in each of its maps, the *first* entry whose handler is identical to its
own.

The registry is a machine whose actions are the `on()` calls and the calls of returned
unsubscribe functions, in any order and any number of times.  Its abstract meaning is the list of
registrations with, for each, whether its own unsubscribe function has been called.

## Main definitions

* `HandlerRef` — function identity: a caller's function, or a closure of the bus.
* `Registry`, `registryStep` — the machine.
* `liveEntries` — the entries of the registrations not yet unsubscribed, in order.
* `Refines` — every key of every map holds exactly its live entries.
* `RemovesItself` — an unsubscribe call whose entry is the first of its handler.

## Main results

* `on_refines`, `unsubscribe_refines` — the two steps.
* `registry_refines_liveEntries` — the registry refines its registrations along every
  run whose unsubscribe calls remove their own entry.
* `registry_removes_sibling_entry` — one that does not breaks the refinement.
-/

namespace Makaio.Bus

open Foundations

/-- Identity of a function object: a function the caller passed in, or a closure created by the
bus itself (a fresh one each time). -/
inductive HandlerRef (H : Type)
  | fn (handler : H)
  | closure (id : ℕ)
  deriving DecidableEq

/-- The two handler maps of a context. -/
inductive HandlerMapKey
  | eventHandlers
  | requestHandlers
  deriving DecidableEq

/-- The `handlerKind` option of a wildcard subscription. -/
inductive HandlerKind
  | both
  | event
  | request

/-- The options of `on()`.  Only the presence of a payload filter matters to registration. -/
structure OnOptions where
  /-- `options.filter !== undefined` -/
  hasFilter : Bool
  /-- `options.handlerKind` -/
  handlerKind : Option HandlerKind
  /-- `options.priority` -/
  priority : Option ℤ

/-- The options of a call without options. -/
def OnOptions.none : OnOptions := ⟨false, .none, .none⟩

variable (definition : SubjectDefinition)

/-- `subject.includes('*') || subject.includes(':')` -/
def isWildcard : Bool :=
  definition.subject.toList.contains '*' || definition.subject.toList.contains ':'

/-- The maps a subscription is registered in. -/
def handlerMaps (options : OnOptions) : List HandlerMapKey :=
  let handlerKind := if isWildcard definition then options.handlerKind else none
  let isAmbiguousWildcard := isWildcard definition && !definition.isRequest
  match handlerKind with
  | some .both => [.eventHandlers, .requestHandlers]
  | some .event => [.eventHandlers]
  | some .request => [.requestHandlers]
  | none =>
    if isAmbiguousWildcard then [.eventHandlers, .requestHandlers]
    else if definition.isRequest then [.requestHandlers]
    else [.eventHandlers]

/-- A subscription lives at most once in a map. -/
lemma handlerMaps_nodup (options : OnOptions) :
    (handlerMaps definition options).Nodup := by
  unfold handlerMaps
  generalize isWildcard definition = wildcard
  generalize definition.isRequest = isRequest
  generalize options.handlerKind = kind
  rcases kind with _ | (_ | _ | _) <;> cases wildcard <;> cases isRequest <;> decide

/-! ### The machine -/

/-- One `on()` call: what its unsubscribe function closes over, and whether that function has
been called. -/
structure Registration (H : Type) where
  /-- The position of the call among all `on()` calls. -/
  id : ℕ
  /-- The maps the handler was added to. -/
  maps : List HandlerMapKey
  /-- The full subject key. -/
  key : Key
  /-- The effective handler: the caller's function, or the filtering closure around it. -/
  handler : HandlerRef H
  priority : ℤ
  /-- Whether the returned unsubscribe function has been called. -/
  unsubscribed : Bool

/-- The entry a registration adds. -/
def Registration.entry {H : Type} (r : Registration H) : HandlerEntry (HandlerRef H) :=
  ⟨r.handler, r.priority⟩

/-- The handler maps together with the `on()` calls made so far. -/
structure Registry (H : Type) where
  eventHandlers : HandlerMap (HandlerRef H)
  requestHandlers : HandlerMap (HandlerRef H)
  registrations : List (Registration H)

/-- The registry of a fresh context. -/
def Registry.empty {H : Type} : Registry H := ⟨.empty, .empty, []⟩

/-- `context[mapKey]` -/
def Registry.handlers {H : Type} (s : Registry H) : HandlerMapKey → HandlerMap (HandlerRef H)
  | .eventHandlers => s.eventHandlers
  | .requestHandlers => s.requestHandlers

/-- Update one of the two maps. -/
def Registry.modify {H : Type} (s : Registry H) (mapKey : HandlerMapKey)
    (f : HandlerMap (HandlerRef H) → HandlerMap (HandlerRef H)) : Registry H :=
  match mapKey with
  | .eventHandlers => { s with eventHandlers := f s.eventHandlers }
  | .requestHandlers => { s with requestHandlers := f s.requestHandlers }

section Machine

variable {H : Type}

/-- The registration an `on()` call makes. -/
def newRegistration (s : Registry H) (definition : SubjectDefinition) (handler : H)
    (options : OnOptions) : Registration H where
  id := s.registrations.length
  maps := handlerMaps definition options
  key := getFullSubjectForSubjectDefinition definition
  -- a filter wraps the handler in a new closure
  handler := if options.hasFilter then .closure s.registrations.length else .fn handler
  priority := options.priority.getD 0
  unsubscribed := false

/-- Register an event or request handler. -/
def on (s : Registry H) (definition : SubjectDefinition) (handler : H) (options : OnOptions) :
    Registry H :=
  let r := newRegistration s definition handler options
  let added := r.maps.foldl (fun s mapKey => s.modify mapKey fun map =>
    addToHandlerMap map r.key r.handler r.priority) s
  { added with registrations := s.registrations ++ [r] }

variable [DecidableEq H]

/-- Call the unsubscribe function of one registration. -/
def unsubscribe (s : Registry H) (r : Registration H) : Registry H :=
  let removed := r.maps.foldl (fun s mapKey => s.modify mapKey fun map =>
    removeFromHandlerMap map r.key r.handler) s
  { removed with
    registrations := s.registrations.map fun r' =>
      if r'.id = r.id then { r' with unsubscribed := true } else r' }

inductive RegistryAction (H : Type)
  | on (definition : SubjectDefinition) (handler : H) (options : OnOptions)
  | unsubscribe (id : ℕ)

/-- One action; an unsubscribe function can be called only after it was returned. -/
def registryStep (s : Registry H) : RegistryAction H → Option (Registry H)
  | .on definition handler options => some (on s definition handler options)
  | .unsubscribe id => (s.registrations.find? fun r => r.id = id).map (unsubscribe s)

end Machine

/-! ### The abstract meaning -/

section Meaning

variable {H : Type}

/-- The registrations under `key` in `mapKey` whose own unsubscribe function has not been called,
in the order of the `on()` calls. -/
def liveRegistrations (s : Registry H) (mapKey : HandlerMapKey) (key : Key) :
    List (Registration H) :=
  s.registrations.filter fun r => mapKey ∈ r.maps ∧ r.key = key ∧ r.unsubscribed = false

/-- The live entries of a key: by descending priority, in registration order within a
priority. -/
def liveEntries (s : Registry H) (mapKey : HandlerMapKey) (key : Key) :
    List (HandlerEntry (HandlerRef H)) :=
  (sortDesc Registration.priority (liveRegistrations s mapKey key)).map Registration.entry

/-- What a map stores for a list of entries: nothing if there are none. -/
def slot (entries : List (HandlerEntry (HandlerRef H))) :
    Option (List (HandlerEntry (HandlerRef H))) :=
  if entries.length = 0 then none else some entries

/-- Every key of every map holds exactly its live entries, and no key holds an empty list. -/
def Refines (s : Registry H) : Prop :=
  ∀ mapKey key, (s.handlers mapKey).get? key = slot (liveEntries s mapKey key)

/-- The invariant of the machine: registrations are numbered by position, none lists a map twice,
and the maps refine them. -/
structure RegistryInv (s : Registry H) : Prop where
  ids : s.registrations.map Registration.id = List.range s.registrations.length
  maps_nodup : ∀ r ∈ s.registrations, r.maps.Nodup
  refines : Refines s

/-- Two registrations of one handler under one key in a common map. -/
def SharesSlot (r r' : Registration H) : Prop :=
  r'.key = r.key ∧ r'.handler = r.handler ∧ ∃ mapKey ∈ r.maps, mapKey ∈ r'.maps

/-- `r'` stands behind `r` in every array that holds both. -/
def StandsBehind (r' r : Registration H) : Prop :=
  r'.priority < r.priority ∨ r'.priority = r.priority ∧ r.id < r'.id

/-- An action is unambiguous when it is an `on()` call, or the call of an unsubscribe function
whose entry is the first of its handler: every other live registration of the same handler under
the same key and map stands behind it, and there is none if the function was called before. -/
def RemovesItself (s : Registry H) : RegistryAction H → Prop
  | .on _ _ _ => True
  | .unsubscribe id =>
    ∀ r ∈ s.registrations, r.id = id → ∀ r' ∈ s.registrations, r'.id ≠ id →
      r'.unsubscribed = false → SharesSlot r r' →
      r.unsubscribed = false ∧ StandsBehind r' r

instance [DecidableEq H] (r r' : Registration H) : Decidable (SharesSlot r r') :=
  inferInstanceAs (Decidable (_ ∧ _ ∧ _))

instance (r' r : Registration H) : Decidable (StandsBehind r' r) :=
  inferInstanceAs (Decidable (_ ∨ _))

instance [DecidableEq H] (s : Registry H) (a : RegistryAction H) : Decidable (RemovesItself s a) :=
  match a with
  | .on _ _ _ => inferInstanceAs (Decidable True)
  | .unsubscribe id => inferInstanceAs (Decidable (∀ r ∈ s.registrations, r.id = id →
      ∀ r' ∈ s.registrations, r'.id ≠ id → r'.unsubscribed = false → SharesSlot r r' →
      r.unsubscribed = false ∧ StandsBehind r' r))

end Meaning

/-! ### The two steps -/

section Steps

variable {H : Type}

@[simp] lemma handlers_modify (s : Registry H) (mapKey mapKey' : HandlerMapKey)
    (f : HandlerMap (HandlerRef H) → HandlerMap (HandlerRef H)) :
    (s.modify mapKey f).handlers mapKey' =
      if mapKey' = mapKey then f (s.handlers mapKey) else s.handlers mapKey' := by
  cases mapKey <;> cases mapKey' <;> rfl

/-- Updating a list of distinct maps updates each of them once. -/
lemma handlers_foldl_modify (f : HandlerMap (HandlerRef H) → HandlerMap (HandlerRef H))
    {maps : List HandlerMapKey} (hmaps : maps.Nodup) (mapKey : HandlerMapKey) :
    ∀ s : Registry H, (maps.foldl (fun s m => s.modify m f) s).handlers mapKey =
      if mapKey ∈ maps then f (s.handlers mapKey) else s.handlers mapKey := by
  induction maps with
  | nil => intro s; simp
  | cons m maps ih =>
    intro s
    obtain ⟨hm, hmaps⟩ := List.nodup_cons.mp hmaps
    rw [List.foldl_cons, ih hmaps, handlers_modify]
    by_cases hmk : mapKey = m
    · subst hmk
      simp [hm]
    · simp [hmk]

variable {s : Registry H} {r : Registration H}

/-- Distinct registrations have distinct numbers. -/
lemma RegistryInv.eq_of_id_eq (hs : RegistryInv s) {r r' : Registration H} (hr : r ∈ s.registrations)
    (hr' : r' ∈ s.registrations) (h : r.id = r'.id) : r = r' := by
  have hnodup : (s.registrations.map Registration.id).Nodup := by
    rw [hs.ids]
    exact List.nodup_range
  exact List.inj_on_of_nodup_map hnodup hr hr' h

/-- Registrations are listed by increasing number. -/
lemma RegistryInv.pairwise_id (hs : RegistryInv s) :
    s.registrations.Pairwise fun r r' => r.id < r'.id := by
  have h : (s.registrations.map Registration.id).Pairwise (· < ·) := by
    rw [hs.ids]
    exact List.pairwise_lt_range
  exact List.pairwise_map.mp h

variable {mapKey : HandlerMapKey}

lemma mem_liveRegistrations {key : Key} :
    r ∈ liveRegistrations s mapKey key ↔
      r ∈ s.registrations ∧ mapKey ∈ r.maps ∧ r.key = key ∧ r.unsubscribed = false := by
  simp [liveRegistrations]

/-- The live entries are in descending priority order. -/
lemma descending_liveEntries (s : Registry H) (mapKey : HandlerMapKey) (key : Key) :
    Descending HandlerEntry.priority (liveEntries s mapKey key) :=
  (descending_sortDesc _).map HandlerEntry.priority Registration.entry fun _ => rfl

@[simp] lemma getD_slot (entries : List (HandlerEntry (HandlerRef H))) :
    (slot entries).getD [] = entries := by
  cases entries <;> simp [slot]

/-- An `on()` call adds its registration to the live ones of its key and maps. -/
lemma liveRegistrations_on (s : Registry H) (definition : SubjectDefinition) (handler : H)
    (options : OnOptions) (mapKey : HandlerMapKey) (key : Key) :
    liveRegistrations (on s definition handler options) mapKey key =
      liveRegistrations s mapKey key ++
        if mapKey ∈ handlerMaps definition options ∧
            getFullSubjectForSubjectDefinition definition = key then
          [newRegistration s definition handler options]
        else [] := by
  unfold liveRegistrations on
  rw [List.filter_append]
  congr 1
  by_cases h : mapKey ∈ handlerMaps definition options ∧
      getFullSubjectForSubjectDefinition definition = key
  · rw [if_pos h, List.filter_cons_of_pos (by simpa [newRegistration] using h), List.filter_nil]
  · rw [if_neg h, List.filter_cons_of_neg (by simpa [newRegistration] using h), List.filter_nil]

/-- The maps after an `on()` call. -/
lemma handlers_on (s : Registry H) (definition : SubjectDefinition) (handler : H)
    (options : OnOptions) (mapKey : HandlerMapKey) :
    (on s definition handler options).handlers mapKey =
      let r := newRegistration s definition handler options
      if mapKey ∈ r.maps then addToHandlerMap (s.handlers mapKey) r.key r.handler r.priority
      else s.handlers mapKey := by
  set r := newRegistration s definition handler options
  have h := handlers_foldl_modify (fun map => addToHandlerMap map r.key r.handler r.priority)
    (handlerMaps_nodup definition options) mapKey s
  cases mapKey <;> exact h

/-- **The registration step**: an `on()` call keeps the invariant. -/
theorem on_refines (hs : RegistryInv s) (definition : SubjectDefinition) (handler : H) (options : OnOptions) :
    RegistryInv (on s definition handler options) where
  ids := by
    have hlen : (on s definition handler options).registrations.length =
        s.registrations.length + 1 := by simp [on]
    rw [hlen, List.range_succ, ← hs.ids]
    simp [on, newRegistration]
  maps_nodup := by
    intro r hr
    rcases List.mem_append.mp hr with hr | hr
    · exact hs.maps_nodup r hr
    · rw [List.mem_singleton.mp hr]
      exact handlerMaps_nodup definition options
  refines := by
    intro mapKey key
    set r := newRegistration s definition handler options with hr
    rw [handlers_on, liveEntries, liveRegistrations_on]
    by_cases hm : mapKey ∈ handlerMaps definition options
    · rw [if_pos (show mapKey ∈ r.maps from hm), get?_addToHandlerMap]
      by_cases hk : r.key = key
      · have hne : ∀ (e : HandlerEntry (HandlerRef H)) l, slot (insertDesc HandlerEntry.priority e l) =
            some (insertDesc HandlerEntry.priority e l) := by
          intro e l
          refine if_neg fun hnil => ?_
          have he : e ∈ insertDesc HandlerEntry.priority e l := mem_insertDesc.mpr (Or.inl rfl)
          rw [List.length_eq_zero_iff.mp hnil] at he
          cases he
        have hmap := map_insertDesc Registration.priority HandlerEntry.priority
          Registration.entry (fun _ => rfl) r
          (sortDesc Registration.priority (liveRegistrations s mapKey key))
        rw [if_pos hk.symm, if_pos ⟨hm, hk⟩, sortDesc_append_singleton, hmap, hne, hk,
          hs.refines mapKey key, getD_slot,
          insertSorted_eq_insertDesc _ (descending_liveEntries s mapKey key)]
        rfl
      · rw [if_neg (Ne.symm hk), if_neg (fun h => hk h.2), List.append_nil]
        exact hs.refines mapKey key
    · rw [if_neg (show mapKey ∉ r.maps from hm), if_neg (fun h => hm h.1), List.append_nil]
      exact hs.refines mapKey key

variable [DecidableEq H]

/-- Calling an unsubscribe function takes its registration out of the live ones. -/
lemma liveRegistrations_unsubscribe (s : Registry H) (r : Registration H)
    (mapKey : HandlerMapKey) (key : Key) :
    liveRegistrations (unsubscribe s r) mapKey key =
      (liveRegistrations s mapKey key).filter fun r' => r'.id ≠ r.id := by
  unfold liveRegistrations unsubscribe
  induction s.registrations with
  | nil => rfl
  | cons r' l ih =>
    rw [List.map_cons, List.filter_cons, ih, List.filter_cons]
    by_cases hid : r'.id = r.id
    · by_cases hlive : mapKey ∈ r'.maps ∧ r'.key = key ∧ r'.unsubscribed = false
      · simp [hid, hlive]
      · simp [hid, hlive]
    · by_cases hlive : mapKey ∈ r'.maps ∧ r'.key = key ∧ r'.unsubscribed = false
      · simp [hid, hlive]
      · simp [hid, hlive]

omit [DecidableEq H] in
/-- Erasing the first element satisfying `p` erases exactly the element numbered `i`, if that
element satisfies `p` and every other one that does stands behind it. -/
lemma eraseP_eq_filter_id {p : Registration H → Bool} {i : ℕ} {l : List (Registration H)}
    (hids : (l.map Registration.id).Nodup)
    (hp : ∀ r ∈ l, r.id = i → p r = true)
    (hfirst : l.Pairwise fun r r' => p r = true → r'.id ≠ i)
    (honly : ∀ r ∈ l, p r = true → ∃ r' ∈ l, r'.id = i) :
    l.eraseP p = l.filter fun r => r.id ≠ i := by
  induction l with
  | nil => rfl
  | cons r l ih =>
    rw [List.map_cons, List.nodup_cons] at hids
    obtain ⟨hr, hl⟩ := List.pairwise_cons.mp hfirst
    by_cases hid : r.id = i
    · have hrest : ∀ r' ∈ l, r'.id ≠ i := fun r' hr' h =>
        hids.1 (List.mem_map.mpr ⟨r', hr', h.trans hid.symm⟩)
      rw [List.eraseP_cons_of_pos (hp r (by simp) hid), List.filter_cons_of_neg (by simpa using hid),
        List.filter_eq_self.mpr fun r' hr' => by simpa using hrest r' hr']
    · have hnp : p r ≠ true := by
        intro hpr
        obtain ⟨r', hr', hid'⟩ := honly r (by simp) hpr
        rcases List.mem_cons.mp hr' with rfl | hr'
        · exact hid hid'
        · exact hr r' hr' hpr hid'
      rw [List.eraseP_cons_of_neg hnp, List.filter_cons_of_pos (by simpa using hid),
        ih hids.2 (fun r' hr' => hp r' (List.mem_cons_of_mem _ hr')) hl]
      intro r' hr' hpr'
      obtain ⟨r'', hr'', hid''⟩ := honly r' (List.mem_cons_of_mem _ hr') hpr'
      rcases List.mem_cons.mp hr'' with rfl | hr''
      · exact absurd hid'' hid
      · exact ⟨r'', hr'', hid''⟩

/-- The maps after the call of an unsubscribe function. -/
lemma handlers_unsubscribe (s : Registry H) (hr : r.maps.Nodup) (mapKey : HandlerMapKey) :
    (unsubscribe s r).handlers mapKey =
      if mapKey ∈ r.maps then removeFromHandlerMap (s.handlers mapKey) r.key r.handler
      else s.handlers mapKey := by
  have h := handlers_foldl_modify (fun map => removeFromHandlerMap map r.key r.handler) hr
    mapKey s
  cases mapKey <;> exact h

/-- Removing the first entry of the handler of `r` removes the entry of `r`, if the call is
unambiguous.

**Proof sketch.** The entries are the live registrations sorted by priority, and the sort is
stable, so of two live registrations with the handler of `r` the one that is not `r` stands
behind it.  If `r` is no longer live there is no live registration with its handler. -/
lemma eraseP_liveEntries (hs : RegistryInv s) (hr : r ∈ s.registrations)
    (hself : RemovesItself s (.unsubscribe r.id)) (hmap : mapKey ∈ r.maps) :
    (liveEntries s mapKey r.key).eraseP (fun entry => entry.handler = r.handler) =
      liveEntries (unsubscribe s r) mapKey r.key := by
  have hshares : ∀ r' ∈ liveRegistrations s mapKey r.key, r'.handler = r.handler → r'.id ≠ r.id →
      r.unsubscribed = false ∧ StandsBehind r' r := by
    intro r' hr' hhandler hid
    obtain ⟨hmem, hmap', hkey, hlive⟩ := mem_liveRegistrations.mp hr'
    exact hself r hr rfl r' hmem hid hlive ⟨hkey, hhandler, mapKey, hmap, hmap'⟩
  have hstable := sortDesc_stable Registration.priority
    (hs.pairwise_id.filter fun r' => decide (mapKey ∈ r'.maps ∧ r'.key = r.key ∧
      r'.unsubscribed = false))
  rw [liveEntries, List.eraseP_map, liveEntries, liveRegistrations_unsubscribe, sortDesc_filter]
  congr 1
  refine eraseP_eq_filter_id ?_ (fun r' hr' hid => ?_) ?_ (fun r' hr' hhandler => ?_)
  · have hnodup : (s.registrations.map Registration.id).Nodup := by
      rw [hs.ids]
      exact List.nodup_range
    exact ((sortDesc_perm _).map _).nodup_iff.mpr
      (hnodup.sublist (List.filter_sublist.map _))
  · have hmem := (mem_liveRegistrations.mp (mem_sortDesc.mp hr')).1
    rw [hs.eq_of_id_eq hmem hr hid]
    simp [Registration.entry]
  · refine (List.Pairwise.and_mem.mp hstable).imp fun {r₁ r₂} h hhandler hid => ?_
    obtain ⟨hr₁, hr₂, horder⟩ := h
    have heq := hs.eq_of_id_eq (mem_liveRegistrations.mp (mem_sortDesc.mp hr₂)).1 hr hid
    subst heq
    rcases eq_or_ne r₁.id r₂.id with hid₁ | hid₁
    · rw [hs.eq_of_id_eq (mem_liveRegistrations.mp (mem_sortDesc.mp hr₁)).1 hr hid₁] at horder
      omega
    · have hbehind := (hshares r₁ (mem_sortDesc.mp hr₁) (of_decide_eq_true hhandler) hid₁).2
      unfold StandsBehind at hbehind
      omega
  · rcases eq_or_ne r'.id r.id with hid | hid
    · exact ⟨r', hr', hid⟩
    · have hlive := (hshares r' (mem_sortDesc.mp hr') (of_decide_eq_true hhandler) hid).1
      exact ⟨r, mem_sortDesc.mpr (mem_liveRegistrations.mpr ⟨hr, hmap, rfl, hlive⟩), rfl⟩

/-- Away from its own maps and key, an unsubscribe function changes no live entry. -/
lemma liveEntries_unsubscribe_of_not (hs : RegistryInv s) (hr : r ∈ s.registrations) {key : Key}
    (h : ¬ (mapKey ∈ r.maps ∧ r.key = key)) :
    liveEntries (unsubscribe s r) mapKey key = liveEntries s mapKey key := by
  rw [liveEntries, liveRegistrations_unsubscribe, liveEntries]
  congr 2
  refine List.filter_eq_self.mpr fun r' hr' => ?_
  obtain ⟨hmem, hmap, hkey, -⟩ := mem_liveRegistrations.mp hr'
  have hid : r'.id ≠ r.id := by
    intro hid
    rw [hs.eq_of_id_eq hmem hr hid] at hmap hkey
    exact h ⟨hmap, hkey⟩
  simpa using hid

/-- **The removal step**: the call of an unsubscribe function that removes its own entry keeps
the invariant. -/
theorem unsubscribe_refines (hs : RegistryInv s) (hr : r ∈ s.registrations)
    (hself : RemovesItself s (.unsubscribe r.id)) :
    RegistryInv (unsubscribe s r) where
  ids := by
    have hids : (unsubscribe s r).registrations.map Registration.id =
        s.registrations.map Registration.id := by
      simp only [unsubscribe, List.map_map]
      refine List.map_congr_left fun r' _ => ?_
      simp only [Function.comp_apply]
      split_ifs <;> rfl
    rw [hids, hs.ids]
    simp [unsubscribe]
  maps_nodup := by
    intro r' hr'
    obtain ⟨r'', hr'', rfl⟩ := List.mem_map.mp hr'
    split_ifs
    · exact hs.maps_nodup r'' hr''
    · exact hs.maps_nodup r'' hr''
  refines := by
    intro mapKey key
    rw [handlers_unsubscribe s (hs.maps_nodup r hr)]
    by_cases hmap : mapKey ∈ r.maps
    · rw [if_pos hmap, get?_removeFromHandlerMap]
      by_cases hkey : key = r.key
      · subst hkey
        rw [if_pos rfl, hs.refines, ← eraseP_liveEntries hs hr hself hmap]
        cases hlive : liveEntries s mapKey r.key <;> simp [slot]
      · rw [if_neg hkey, liveEntries_unsubscribe_of_not hs hr fun h => hkey h.2.symm]
        exact hs.refines mapKey key
    · rw [if_neg hmap, liveEntries_unsubscribe_of_not hs hr fun h => hmap h.1]
      exact hs.refines mapKey key

end Steps

/-! ### Runs -/

section Runs

variable {H : Type} [DecidableEq H]

omit [DecidableEq H] in
/-- A fresh registry refines the empty list of registrations. -/
lemma registryInv_empty : RegistryInv (Registry.empty : Registry H) where
  ids := rfl
  maps_nodup := fun r hr => absurd hr (by simp [Registry.empty])
  refines := by
    intro mapKey key
    cases mapKey <;> exact OrderedMap.get?_empty key

/-- **Registry refinement.** Along every run in which each unsubscribe call removes its own entry,
each key of each map holds exactly the entries of the registrations whose own unsubscribe function
has not been called, by descending priority and in registration order within a priority, and no
key holds an empty list. -/
theorem registry_refines_liveEntries {s : Registry H}
    (hreach : Reach (fun s => s = Registry.empty) registryStep RemovesItself s) : Refines s := by
  have hinv : RegistryInv s := by
    refine Reach.invariant RegistryInv ?_ ?_ hreach
    · rintro s rfl
      exact registryInv_empty
    · intro s a s' hs hok hstep
      cases a with
      | on definition handler options =>
        cases hstep
        exact on_refines hs definition handler options
      | unsubscribe id =>
        obtain ⟨r, hfind, rfl⟩ := Option.map_eq_some_iff.mp hstep
        have hid : r.id = id := by simpa using List.find?_some hfind
        subst hid
        exact unsubscribe_refines hs (List.mem_of_find?_eq_some hfind) hok
  exact hinv.refines

/-- Handler `0` registered for one event subject at priority 5 and again at priority 1. -/
def registeredTwice : List (RegistryAction ℕ) :=
  let definition : SubjectDefinition := ⟨"a", "d", false, false, none⟩
  [.on definition 0 ⟨false, none, some 5⟩, .on definition 0 ⟨false, none, some 1⟩]

/-- Unsubscribing the higher of two registrations of one handler, and then the lower, removes
both in turn. -/
theorem registry_refines_registeredTwice :
    ∃ s, runGuarded registryStep RemovesItself Registry.empty
        (registeredTwice ++ [.unsubscribe 0, .unsubscribe 1]) = some s ∧ Refines s := by
  refine ⟨_, rfl, registry_refines_liveEntries ?_⟩
  exact Reach.of_runGuarded (registeredTwice ++ [.unsubscribe 0, .unsubscribe 1]) (.start rfl) rfl

/-- Unsubscribing the lower of two registrations of one handler removes the entry of the
higher. -/
theorem registry_removes_sibling_entry :
    ∃ s, runGuarded registryStep (fun _ _ => True) Registry.empty
        (registeredTwice ++ [.unsubscribe 1]) = some s ∧ ¬ Refines s := by
  refine ⟨_, rfl, fun h => ?_⟩
  have hslot := h .eventHandlers "d.a"
  revert hslot
  decide

end Runs

end Makaio.Bus
