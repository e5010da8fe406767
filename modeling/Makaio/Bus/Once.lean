import Makaio.Foundations.Counting
import Makaio.Bus.MergedList
import Makaio.Bus.Subscriptions

set_option autoImplicit false

/-!
# One-shot handlers

The callback form of `once()` registers a wrapper that unsubscribes itself and then runs the callback
(`methods/once.ts`, `filtered-bus.ts`, and `DirectChannel.once`, whose proxy awaits the decryption
first).  The wrapper does not remember that it has run.  Emits and requests walk a snapshot of the
handlers, so a wrapper that has unsubscribed itself is called again by every other walk that took its
snapshot before.

The machine lets walks take their steps in any order.  This covers handlers that emit again while they
run, concurrent requests, and several `next()` calls of one handler.

## Main definitions

* `OnceBus`, `onceStep` — the machine.
* `held`, `fired` — how often a wrapper is still to be called, and how often its
  callback has run.
* `SnapshotsFree` — a snapshot takes up no wrapper that another walk still holds.

## Main results

* `onceInv_step` — held and fired together are at most one.
* `once_atMostOnce` — a callback runs at most once along every such run.
* `once_fires_twice` — a sibling handler that emits again.
-/

namespace Makaio.Bus

open Foundations

/-- A function registered with `on()`: of the caller, or the wrapper of a `once()` call. -/
abbrev OnceFunction (H : Type) := H ⊕ ℕ

/-- A `once()` call. -/
structure OnceRecord (H V : Type) where
  /-- The `on()` call made for the wrapper. -/
  registration : Registration (OnceFunction H)
  /-- The payload filter of a filtered bus. -/
  filter : Option (V → Bool)
  /-- Made on a direct channel. -/
  channel : Bool
  /-- `unsubscribe !== null` -/
  subscribed : Bool

/-- The function object in the handler maps. -/
def OnceRecord.handler {H V : Type} (r : OnceRecord H V) : HandlerRef (OnceFunction H) :=
  r.registration.handler

/-- An emit or a request in progress: the handlers still to be called. -/
structure HandlerWalk (H V : Type) where
  payload : V
  rest : List (HandlerEntry (HandlerRef (OnceFunction H)))

/-- A bus with the walks in progress. -/
structure OnceBus (H V : Type) where
  registry : Registry (OnceFunction H)
  onces : List (OnceRecord H V)
  walks : List (HandlerWalk H V)
  /-- The payloads that proxies of channel handlers are decrypting, with the `once()` call. -/
  decrypting : List (ℕ × V)
  /-- The callbacks run so far. -/
  invocations : List (ℕ × V)

/-- What can happen. -/
inductive OnceAction (H V : Type)
  | on (definition : SubjectDefinition) (handler : H) (options : OnOptions)
  | unsubscribe (id : ℕ)
  | once (definition : SubjectDefinition) (filter : Option (V → Bool)) (channel : Bool)
  /-- The function returned by `once()`. -/
  | cancel (n : ℕ)
  | emit (subject : Key) (payload : V)
  | request (subject : Key) (payload : V) (cursor : Option ℤ)
  /-- A walk calls its next handler. -/
  | call (i : ℕ)
  /-- A walk ends early: a handler answered the request. -/
  | stop (i : ℕ)
  /-- A handler calls `next()` once more: the rest of the walk is started again. -/
  | next (i : ℕ)
  | replacePayload (i : ℕ) (payload : V)
  /-- A decryption settles. -/
  | decrypted (j : ℕ) (ok : Bool)

section Machine

variable {H V : Type} [DecidableEq H]

omit [DecidableEq H] in
/-- A bus at the beginning. -/
def OnceBus.empty : OnceBus H V := ⟨.empty, [], [], [], []⟩

omit [DecidableEq H] in
/-- The handlers an emit calls. -/
def emitSnapshot (s : OnceBus H V) (subject : Key) :
    List (HandlerEntry (HandlerRef (OnceFunction H))) :=
  getMatchingHandlerEntries s.registry.eventHandlers subject

omit [DecidableEq H] in
/-- The local handlers a request calls. -/
def requestSnapshot (s : OnceBus H V) (subject : Key) (cursor : Option ℤ) :
    List (HandlerEntry (HandlerRef (OnceFunction H))) :=
  (getMatchingHandlerEntries s.registry.requestHandlers subject).filter fun entry =>
    BelowCursor cursor entry.priority

/-- Unsubscribe the wrapper of a `once()` call, if it still is subscribed. -/
def unsubscribeOnce (s : OnceBus H V) (n : ℕ) : OnceBus H V :=
  match s.onces[n]? with
  | none => s
  | some r =>
    if r.subscribed then
      { s with
        registry := unsubscribe s.registry r.registration
        onces := s.onces.set n { r with subscribed := false } }
    else s

/-- The wrapper: it removes itself before it calls the callback. -/
def runWrapper (s : OnceBus H V) (n : ℕ) (payload : V) : OnceBus H V :=
  let s := unsubscribeOnce s n
  { s with invocations := s.invocations ++ [(n, payload)] }

/-- Call a function object of the handler maps.  What other handlers do are actions of their own. -/
def callHandler (s : OnceBus H V) (handler : HandlerRef (OnceFunction H)) (payload : V) :
    OnceBus H V :=
  match s.onces.findIdx? fun r => r.handler = handler with
  | none => s
  | some n =>
    match s.onces[n]? with
    | none => s
    | some r =>
      if r.filter.all fun filter => filter payload then
        -- the proxy of a channel handler awaits the decryption
        if r.channel then { s with decrypting := s.decrypting ++ [(n, payload)] }
        else runWrapper s n payload
      else s

/-- One action. -/
def onceStep (s : OnceBus H V) : OnceAction H V → Option (OnceBus H V)
  | .on definition handler options =>
    some { s with registry := Bus.on s.registry definition (.inl handler) options }
  | .unsubscribe id => (s.registry.registrations.find? fun r => r.id = id).map fun r =>
    { s with registry := unsubscribe s.registry r }
  | .once definition filter channel =>
    let options : OnOptions := ⟨filter.isSome, none, none⟩
    some { s with
      registry := Bus.on s.registry definition (.inr s.onces.length) options
      onces := s.onces ++
        [⟨newRegistration s.registry definition (.inr s.onces.length) options, filter, channel,
          true⟩] }
  | .cancel n => some (unsubscribeOnce s n)
  | .emit subject payload => some { s with walks := s.walks ++ [⟨payload, emitSnapshot s subject⟩] }
  | .request subject payload cursor =>
    some { s with walks := s.walks ++ [⟨payload, requestSnapshot s subject cursor⟩] }
  | .call i =>
    match s.walks[i]? with
    | some ⟨payload, entry :: rest⟩ =>
      some (callHandler { s with walks := s.walks.set i ⟨payload, rest⟩ } entry.handler payload)
    | _ => none
  | .stop i => if i < s.walks.length then some { s with walks := s.walks.eraseIdx i } else none
  | .next i => (s.walks[i]?).map fun walk => { s with walks := s.walks ++ [walk] }
  | .replacePayload i payload => (s.walks[i]?).map fun walk =>
    { s with walks := s.walks.set i { walk with payload := payload } }
  | .decrypted j ok => (s.decrypting[j]?).map fun pending =>
    let s := { s with decrypting := s.decrypting.eraseIdx j }
    if ok then runWrapper s pending.1 pending.2 else s

/-- How often a function object is still to be called by the walks. -/
def heldByWalks (s : OnceBus H V) (handler : HandlerRef (OnceFunction H)) : ℕ :=
  (s.walks.map fun walk => walk.rest.countP fun entry => entry.handler = handler).sum

/-- How often the callback of a `once()` call may still be called: by walks in progress, or after a
decryption. -/
def held (s : OnceBus H V) (n : ℕ) : ℕ :=
  ((s.onces[n]?).map fun r => heldByWalks s r.handler).getD 0 +
    s.decrypting.countP fun pending => pending.1 = n

omit [DecidableEq H] in
/-- How often the callback of a `once()` call has run. -/
def fired (s : OnceBus H V) (n : ℕ) : ℕ := s.invocations.countP fun invocation => invocation.1 = n

/-- No wrapper in a snapshot is held by another walk or decryption. -/
def FreeSnapshot (s : OnceBus H V) (snapshot : List (HandlerEntry (HandlerRef (OnceFunction H)))) :
    Prop :=
  ∀ entry ∈ snapshot, ∀ n ∈ s.onces.findIdx? fun r => r.handler = entry.handler, held s n = 0

/-- An action that takes a snapshot takes up no wrapper that is held already. -/
def SnapshotsFree (s : OnceBus H V) : OnceAction H V → Prop
  | .emit subject _ => FreeSnapshot s (emitSnapshot s subject)
  | .request subject _ cursor => FreeSnapshot s (requestSnapshot s subject cursor)
  | .next i => ∀ walk ∈ s.walks[i]?, FreeSnapshot s walk.rest
  | _ => True

instance (s : OnceBus H V) (snapshot : List (HandlerEntry (HandlerRef (OnceFunction H)))) :
    Decidable (FreeSnapshot s snapshot) :=
  inferInstanceAs (Decidable (∀ entry ∈ snapshot, ∀ n ∈ s.onces.findIdx? fun r =>
    r.handler = entry.handler, held s n = 0))

instance (s : OnceBus H V) (a : OnceAction H V) : Decidable (SnapshotsFree s a) :=
  match a with
  | .emit subject _ => inferInstanceAs (Decidable (FreeSnapshot s (emitSnapshot s subject)))
  | .request subject _ cursor =>
    inferInstanceAs (Decidable (FreeSnapshot s (requestSnapshot s subject cursor)))
  | .next i => inferInstanceAs (Decidable (∀ walk ∈ s.walks[i]?, FreeSnapshot s walk.rest))
  | .on _ _ _ | .unsubscribe _ | .once _ _ _ | .cancel _ | .call _ | .stop _
  | .replacePayload _ _ | .decrypted _ _ => inferInstanceAs (Decidable True)

end Machine

/-! ### How often a map holds a function object -/

variable {mapKey : HandlerMapKey}

section Counts

variable {H : Type} [DecidableEq H]

/-- How often a key of a map lists a function object. -/
def listed (s : Registry H) (mapKey : HandlerMapKey) (key : Key) (handler : HandlerRef H) : ℕ :=
  (((s.handlers mapKey).get? key).getD []).countP fun entry => entry.handler = handler

/-- A sorted insertion adds one to the count of its own function object. -/
private lemma countP_insertSorted (entries : List (HandlerEntry (HandlerRef H)))
    (entry : HandlerEntry (HandlerRef H)) (handler : HandlerRef H) :
    (insertSorted entries entry).countP (fun e => e.handler = handler) =
      entries.countP (fun e => e.handler = handler) +
        if entry.handler = handler then 1 else 0 := by
  unfold insertSorted
  generalize insertionPoint entries entry.priority entries.length 0 entries.length = low
  conv_rhs => rw [← List.take_append_drop low entries]
  simp only [List.countP_append, List.countP_cons, decide_eq_true_eq]
  omega

/-- An `on()` call lists its function object once more under its key and maps. -/
lemma listed_on (s : Registry H) (definition : SubjectDefinition) (f : H) (options : OnOptions)
    (mapKey : HandlerMapKey) (key : Key) (handler : HandlerRef H) :
    listed (Bus.on s definition f options) mapKey key handler =
      let r := newRegistration s definition f options
      listed s mapKey key handler +
        if mapKey ∈ r.maps ∧ key = r.key ∧ r.handler = handler then 1 else 0 := by
  unfold listed
  rw [handlers_on]
  generalize newRegistration s definition f options = r
  by_cases hmap : mapKey ∈ r.maps
  · rw [if_pos hmap, get?_addToHandlerMap]
    by_cases hkey : key = r.key
    · rw [if_pos hkey, Option.getD_some, countP_insertSorted, hkey]
      simp [hmap]
    · simp [hkey]
  · simp [hmap]

/-- The unsubscribe function of a registration drops its function object once from its key and
maps. -/
lemma listed_unsubscribe (s : Registry H) {r : Registration H} (hr : r.maps.Nodup)
    (mapKey : HandlerMapKey) (key : Key) (handler : HandlerRef H) :
    listed (unsubscribe s r) mapKey key handler =
      listed s mapKey key handler -
        if mapKey ∈ r.maps ∧ key = r.key ∧ r.handler = handler then 1 else 0 := by
  unfold listed
  rw [handlers_unsubscribe s hr]
  by_cases hmap : mapKey ∈ r.maps
  · rw [if_pos hmap, get?_removeFromHandlerMap]
    by_cases hkey : key = r.key
    · rw [if_pos hkey, hkey]
      cases hget : (s.handlers mapKey).get? r.key with
      | none => simp
      | some entries =>
        have herase : ((Option.some entries).bind fun entries =>
              let entries := entries.eraseP fun entry => entry.handler = r.handler
              if entries.length = 0 then none else some entries).getD [] =
            entries.eraseP fun entry => entry.handler = r.handler := by
          rw [Option.bind_some]
          dsimp only
          split_ifs with h
          · rw [Option.getD_none, List.length_eq_zero_iff.mp h]
          · rw [Option.getD_some]
        rw [herase, Option.getD_some]
        by_cases hhandler : r.handler = handler
        · subst hhandler
          rw [countP_eraseP]
          simp [hmap]
        · rw [countP_eraseP_of_disjoint, if_neg fun h => hhandler h.2.2, Nat.sub_zero]
          intro e he
          simp only [decide_eq_true_eq] at he ⊢
          exact fun h => hhandler (he.symm.trans h)
    · simp [hkey]
  · simp [hmap]

/-- The handlers of a subject list a function object as often as the keys it matches do together. -/
lemma countP_getMatchingHandlerEntries (map : HandlerMap (HandlerRef H)) (subject : Key)
    (handler : HandlerRef H) :
    (getMatchingHandlerEntries map subject).countP (fun e => e.handler = handler) =
      ((map.entries.filter fun e => matchesSubscription subject e.1).map fun e =>
        e.2.countP fun e => e.handler = handler).sum := by
  have hmerge : ∀ arrays : List (List (HandlerEntry (HandlerRef H))),
      (mergeSortedHandlerArrays arrays).countP (fun e => e.handler = handler) =
        (arrays.map fun array => array.countP fun e => e.handler = handler).sum := by
    intro arrays
    unfold mergeSortedHandlerArrays
    split
    · rfl
    · simp
    · rw [(sortDesc_perm _).countP_eq, List.countP_flatten]
  rw [getMatchingHandlerEntries, hmerge, List.map_map]
  rfl

/-- A snapshot lists a function object at most once if only one key does, and that one once. -/
lemma countP_getMatchingHandlerEntries_le_one {s : Registry H} (key : Key) {handler : HandlerRef H}
    (h : ∀ key', listed s mapKey key' handler ≤ if key' = key then 1 else 0) (subject : Key) :
    (getMatchingHandlerEntries (s.handlers mapKey) subject).countP
      (fun e => e.handler = handler) ≤ 1 := by
  rw [countP_getMatchingHandlerEntries]
  have hlisted : ∀ e ∈ (s.handlers mapKey).entries,
      (e.2.countP fun e => e.handler = handler) ≤ if e.1 = key then 1 else 0 := by
    intro e he
    have := h e.1
    rwa [listed, OrderedMap.mem_entries_iff.mp he, Option.getD_some] at this
  refine sum_map_le_one_of_nodup (k := key)
    ((s.handlers mapKey).nodup.sublist (List.filter_sublist.map Prod.fst)) ?_ ?_
  · intro e he
    refine (hlisted e (List.mem_filter.mp he).1).trans ?_
    split_ifs <;> omega
  · intro e he hne
    simpa [hne] using hlisted e (List.mem_filter.mp he).1

end Counts

/-! ### The invariant -/

section Invariant

variable {H V : Type} [DecidableEq H]

/-- A function object made by a call so far: of a caller, the wrapper of a `once()` call, or a
filtering closure. -/
def Known (s : OnceBus H V) : HandlerRef (OnceFunction H) → Prop
  | .fn (.inl _) => True
  | .fn (.inr n) => n < s.onces.length
  | .closure id => id < s.registry.registrations.length

/-- What holds of the `once()` call number `n`. -/
structure OnceTracked (s : OnceBus H V) (n : ℕ) (r : OnceRecord H V) : Prop where
  maps_nodup : r.registration.maps.Nodup
  /-- The maps list the wrapper where it was registered, once, and only while it is subscribed. -/
  listed_le : ∀ mapKey key, listed s.registry mapKey key r.handler ≤
    if r.subscribed = true ∧ mapKey ∈ r.registration.maps ∧ key = r.registration.key then 1 else 0
  /-- It is still to be called once, or has run once, or neither. -/
  at_most_once : held s n + fired s n ≤ 1
  /-- The wrapper unsubscribes before the callback runs. -/
  not_fired : r.subscribed = true → fired s n = 0

/-- The invariant of the machine. -/
structure OnceInv (s : OnceBus H V) : Prop where
  maps_nodup : ∀ r ∈ s.registry.registrations, r.maps.Nodup
  known_maps : ∀ mapKey key entries, (s.registry.handlers mapKey).get? key = some entries →
    ∀ e ∈ entries, Known s e.handler
  known_walks : ∀ walk ∈ s.walks, ∀ e ∈ walk.rest, Known s e.handler
  known_onces : ∀ r ∈ s.onces, Known s r.handler ∧ ∀ f, r.handler ≠ .fn (.inl f)
  /-- Distinct `once()` calls make distinct function objects. -/
  handler_inj : ∀ (m n : ℕ) (r r' : OnceRecord H V), s.onces[m]? = some r → s.onces[n]? = some r' →
    r.handler = r'.handler → m = n
  known_decrypting : ∀ p ∈ s.decrypting, p.1 < s.onces.length
  known_invocations : ∀ p ∈ s.invocations, p.1 < s.onces.length
  tracked : ∀ n r, s.onces[n]? = some r → OnceTracked s n r

omit [DecidableEq H] in
/-- The empty bus. -/
lemma onceInv_empty [DecidableEq H] : OnceInv (OnceBus.empty : OnceBus H V) where
  maps_nodup := fun r hr => absurd hr (by simp [OnceBus.empty, Registry.empty])
  known_maps := by
    intro mapKey key entries hget
    cases mapKey <;> simp [OnceBus.empty, Registry.empty, Registry.handlers] at hget
  known_walks := fun walk hwalk => absurd hwalk (by simp [OnceBus.empty])
  known_onces := fun r hr => absurd hr (by simp [OnceBus.empty])
  handler_inj := fun m n r r' hr => absurd hr (by simp [OnceBus.empty])
  known_decrypting := fun p hp => absurd hp (by simp [OnceBus.empty])
  known_invocations := fun p hp => absurd hp (by simp [OnceBus.empty])
  tracked := fun n r hr => absurd hr (by simp [OnceBus.empty])

variable {s : OnceBus H V} {handler : HandlerRef (OnceFunction H)} {r : Registration (OnceFunction H)}
variable {n i : ℕ} {t : OnceBus H V} {walk : HandlerWalk H V}

/-- The record found for a function object is the one that made it. -/
lemma OnceInv.findIdx?_handler (hs : OnceInv s) {r : OnceRecord H V} (hr : s.onces[n]? = some r) :
    (s.onces.findIdx? fun r' => r'.handler = r.handler) = some n := by
  obtain ⟨hn, hget⟩ := List.getElem?_eq_some_iff.mp hr
  rw [List.findIdx?_eq_some_iff_getElem]
  refine ⟨hn, by simp [hget], fun m hm => ?_⟩
  intro hhandler
  have := hs.handler_inj m n _ r (List.getElem?_eq_getElem (by omega)) hr (by simpa using hhandler)
  omega

/-- How often the wrapper of a call is held, given its record. -/
lemma held_eq {r : OnceRecord H V} (hr : s.onces[n]? = some r) :
    held s n = heldByWalks s r.handler + s.decrypting.countP fun pending => pending.1 = n := by
  rw [held, hr]
  rfl

omit [DecidableEq H] in
/-- Knowing more calls. -/
lemma Known.mono {s : OnceBus H V} (h : Known s handler) (honces : s.onces.length ≤ t.onces.length)
    (hregistrations : s.registry.registrations.length ≤ t.registry.registrations.length) :
    Known t handler := by
  match handler, h with
  | .fn (.inl _), _ => trivial
  | .fn (.inr n), h => exact lt_of_lt_of_le h honces
  | .closure id, h => exact lt_of_lt_of_le h hregistrations

/-! ### One lemma for each part of the state that a step changes -/

/-- Other handlers come and go. -/
lemma OnceInv.of_registry (hs : OnceInv s) {registry : Registry (OnceFunction H)}
    (hlength : s.registry.registrations.length ≤ registry.registrations.length)
    (hnodup : ∀ r ∈ registry.registrations, r.maps.Nodup)
    (hknown : ∀ mapKey key entries, (registry.handlers mapKey).get? key = some entries →
      ∀ e ∈ entries, Known { s with registry := registry } e.handler) (hlisted : ∀ r ∈ s.onces, ∀ mapKey key,
      listed registry mapKey key r.handler ≤ listed s.registry mapKey key r.handler) :
    OnceInv { s with registry := registry } where
  maps_nodup := hnodup
  known_maps := hknown
  known_walks := fun walk hwalk e he => (hs.known_walks walk hwalk e he).mono le_rfl hlength
  known_onces := fun r hr =>
    ⟨(hs.known_onces r hr).1.mono le_rfl hlength, (hs.known_onces r hr).2⟩
  handler_inj := hs.handler_inj
  known_decrypting := hs.known_decrypting
  known_invocations := hs.known_invocations
  tracked := fun n r hr =>
    { maps_nodup := (hs.tracked n r hr).maps_nodup
      listed_le := fun mapKey key =>
        (hlisted r (List.mem_of_getElem? hr) mapKey key).trans
          ((hs.tracked n r hr).listed_le mapKey key)
      at_most_once := (hs.tracked n r hr).at_most_once
      not_fired := (hs.tracked n r hr).not_fired }

/-- Walks, decryptions and invocations go on. -/
lemma OnceInv.of_pending (hs : OnceInv s) {walks : List (HandlerWalk H V)}
    {decrypting invocations : List (ℕ × V)} (hwalks : ∀ walk ∈ walks, ∀ e ∈ walk.rest, Known s e.handler)
    (hdecrypting : ∀ p ∈ decrypting, p.1 < s.onces.length)
    (hinvocations : ∀ p ∈ invocations, p.1 < s.onces.length) (hpending : ∀ n r, s.onces[n]? = some r →
      let t : OnceBus H V := ⟨s.registry, s.onces, walks, decrypting, invocations⟩
      held t n + fired t n ≤ 1 ∧ (r.subscribed = true → fired t n = 0)) :
    OnceInv ⟨s.registry, s.onces, walks, decrypting, invocations⟩ where
  maps_nodup := hs.maps_nodup
  known_maps := hs.known_maps
  known_walks := hwalks
  known_onces := hs.known_onces
  handler_inj := hs.handler_inj
  known_decrypting := hdecrypting
  known_invocations := hinvocations
  tracked := fun n r hr =>
    { maps_nodup := (hs.tracked n r hr).maps_nodup
      listed_le := (hs.tracked n r hr).listed_le
      at_most_once := (hpending n r hr).1
      not_fired := (hpending n r hr).2 }

omit [DecidableEq H] in
/-- A subscription adds only its own function object to the maps. -/
lemma handler_of_mem_on {s : Registry (OnceFunction H)} {definition : SubjectDefinition} {f : OnceFunction H}
    {options : OnOptions} {key : Key} {entries : List (HandlerEntry (HandlerRef (OnceFunction H)))}
    (hget : ((Bus.on s definition f options).handlers mapKey).get? key = some entries)
    {e : HandlerEntry (HandlerRef (OnceFunction H))} (he : e ∈ entries) :
    e.handler = (newRegistration s definition f options).handler ∨
      ∃ entries', (s.handlers mapKey).get? key = some entries' ∧ e ∈ entries' := by
  rw [handlers_on] at hget
  dsimp only at hget
  split_ifs at hget with hmap
  · rw [get?_addToHandlerMap] at hget
    split_ifs at hget with hkey
    · cases hget
      rcases mem_insertSorted.mp he with rfl | he
      · exact Or.inl rfl
      · right
        rw [hkey]
        cases hold : (s.handlers mapKey).get?
            (newRegistration s definition f options).key with
        | none => simp [hold] at he
        | some entries' => exact ⟨entries', rfl, by simpa [hold] using he⟩
    · exact Or.inr ⟨entries, hget, he⟩
  · exact Or.inr ⟨entries, hget, he⟩

/-- An unsubscribe call adds nothing to the maps. -/
lemma mem_of_mem_unsubscribe {s : Registry (OnceFunction H)} (hr : r.maps.Nodup) {key : Key}
    {entries : List (HandlerEntry (HandlerRef (OnceFunction H)))}
    (hget : ((unsubscribe s r).handlers mapKey).get? key = some entries)
    {e : HandlerEntry (HandlerRef (OnceFunction H))} (he : e ∈ entries) :
    ∃ entries', (s.handlers mapKey).get? key = some entries' ∧ e ∈ entries' := by
  rw [handlers_unsubscribe s hr] at hget
  split_ifs at hget with hmap
  · rw [get?_removeFromHandlerMap] at hget
    split_ifs at hget with hkey
    · obtain ⟨entries', hold, hnew⟩ := Option.bind_eq_some_iff.mp hget
      dsimp only at hnew
      split_ifs at hnew
      cases hnew
      exact ⟨entries', hkey ▸ hold, List.mem_of_mem_eraseP he⟩
    · exact ⟨entries, hget, he⟩
  · exact ⟨entries, hget, he⟩

omit [DecidableEq H] in
/-- A caller's subscription makes none of the wrappers' function objects. -/
lemma newHandler_inl_ne (hknown : Known s handler) (hne : ∀ f, handler ≠ .fn (.inl f))
    (definition : SubjectDefinition) (f : H) (options : OnOptions) :
    (newRegistration s.registry definition (.inl f) options).handler ≠ handler := by
  rintro rfl
  unfold newRegistration at hknown hne
  cases hfilter : options.hasFilter with
  | false => exact hne f (by simp [hfilter])
  | true => simp [hfilter, Known] at hknown

omit [DecidableEq H] in
/-- A `once()` call makes a new function object. -/
lemma newHandler_inr_ne (hknown : Known s handler) (definition : SubjectDefinition) (options : OnOptions) :
    (newRegistration s.registry definition (.inr s.onces.length) options).handler ≠ handler := by
  rintro rfl
  unfold newRegistration at hknown
  cases hfilter : options.hasFilter <;> simp [hfilter, Known] at hknown

omit [DecidableEq H] in
/-- An `on()` call adds its registration. -/
lemma registrations_on (s : Registry (OnceFunction H)) (definition : SubjectDefinition)
    (f : OnceFunction H) (options : OnOptions) :
    (Bus.on s definition f options).registrations =
      s.registrations ++ [newRegistration s definition f options] := rfl

omit [DecidableEq H] in
/-- The maps of every registration are distinct after one more. -/
lemma maps_nodup_on {s : Registry (OnceFunction H)} (hs : ∀ r ∈ s.registrations, r.maps.Nodup)
    (definition : SubjectDefinition) (f : OnceFunction H) (options : OnOptions) :
    ∀ r ∈ (Bus.on s definition f options).registrations, r.maps.Nodup := by
  intro r hr
  rcases List.mem_append.mp hr with hr | hr
  · exact hs r hr
  · rw [List.mem_singleton.mp hr]
    exact handlerMaps_nodup definition options

/-- The `on` step. -/
lemma onceInv_on (hs : OnceInv s) (definition : SubjectDefinition) (f : H) (options : OnOptions) :
    OnceInv { s with registry := Bus.on s.registry definition (.inl f) options } := by
  have hlength : s.registry.registrations.length ≤
      (Bus.on s.registry definition (.inl f) options).registrations.length := by
    simp [registrations_on]
  refine hs.of_registry hlength (maps_nodup_on hs.maps_nodup _ _ _) ?_ ?_
  · intro mapKey key entries hget e he
    rcases handler_of_mem_on hget he with hnew | ⟨entries', hold, he⟩
    · rw [hnew]
      unfold newRegistration
      cases options.hasFilter <;> simp [Known, registrations_on]
    · exact (hs.known_maps mapKey key entries' hold e he).mono le_rfl hlength
  · intro r hr mapKey key
    obtain ⟨hknown, hne⟩ := hs.known_onces r hr
    rw [listed_on]
    dsimp only
    rw [if_neg fun h => newHandler_inl_ne hknown hne definition f options h.2.2]
    exact le_rfl

/-- The registrations keep their maps when one of them is unsubscribed. -/
lemma maps_nodup_unsubscribe {s : Registry (OnceFunction H)}
    (hs : ∀ r ∈ s.registrations, r.maps.Nodup) (r : Registration (OnceFunction H)) :
    ∀ r' ∈ (unsubscribe s r).registrations, r'.maps.Nodup := by
  intro r' hr'
  obtain ⟨r'', hr'', rfl⟩ := List.mem_map.mp hr'
  split_ifs
  · exact hs r'' hr''
  · exact hs r'' hr''

/-- The maps after an unsubscribe call hold known function objects only. -/
lemma OnceInv.known_maps_unsubscribe (hs : OnceInv s) (hr : r.maps.Nodup) (mapKey : HandlerMapKey) (key : Key)
    (entries : List (HandlerEntry (HandlerRef (OnceFunction H))))
    (hget : ((unsubscribe s.registry r).handlers mapKey).get? key = some entries) :
    ∀ e ∈ entries, Known { s with registry := unsubscribe s.registry r } e.handler := by
  intro e he
  obtain ⟨entries', hold, he⟩ := mem_of_mem_unsubscribe hr hget he
  exact (hs.known_maps mapKey key entries' hold e he).mono le_rfl (by simp [unsubscribe])

/-- The `unsubscribe` step. -/
lemma onceInv_unsubscribe (hs : OnceInv s) (hr : r.maps.Nodup) :
    OnceInv { s with registry := unsubscribe s.registry r } := by
  refine hs.of_registry (by simp [unsubscribe]) (maps_nodup_unsubscribe hs.maps_nodup r)
    (hs.known_maps_unsubscribe hr) fun r' _ mapKey key => ?_
  rw [listed_unsubscribe s.registry hr]
  exact Nat.sub_le _ _

omit [DecidableEq H] in
/-- What is held depends on the function object of the call, the walks and the decryptions. -/
lemma held_congr [DecidableEq H] {s : OnceBus H V} (hwalks : s.walks = t.walks)
    (hdecrypting : s.decrypting = t.decrypting)
    (honces : (s.onces[n]?).map OnceRecord.handler = (t.onces[n]?).map OnceRecord.handler) :
    held s n = held t n := by
  have hheld : ∀ u : OnceBus H V, ((u.onces[n]?).map fun r => heldByWalks u r.handler) =
      ((u.onces[n]?).map OnceRecord.handler).map (heldByWalks u) := by
    intro u
    rw [Option.map_map]
    rfl
  have hby : heldByWalks s = heldByWalks t := by
    funext handler
    rw [heldByWalks, heldByWalks, hwalks]
  rw [held, held, hheld, hheld, honces, hby, hdecrypting]

/-- A function object that no call has made is nowhere. -/
lemma OnceInv.absent (hs : OnceInv s) (hnew : ∀ handler', Known s handler' → handler ≠ handler') :
    (∀ mapKey key, listed s.registry mapKey key handler = 0) ∧ heldByWalks s handler = 0 := by
  constructor
  · intro mapKey key
    rw [listed, List.countP_eq_zero]
    intro e he
    cases hget : (s.registry.handlers mapKey).get? key with
    | none => simp [hget] at he
    | some entries =>
      rw [hget, Option.getD_some] at he
      simpa using (hnew _ (hs.known_maps mapKey key entries hget e he)).symm
  · refine List.sum_eq_zero fun x hx => ?_
    obtain ⟨walk, hwalk, rfl⟩ := List.mem_map.mp hx
    rw [List.countP_eq_zero]
    intro e he
    simpa using (hnew _ (hs.known_walks walk hwalk e he)).symm

/-- A list of numbers below `n` does not count `n`. -/
private lemma countP_fst_eq_zero {pairs : List (ℕ × V)} (h : ∀ p ∈ pairs, p.1 < n) :
    (pairs.countP fun p => p.1 = n) = 0 := by
  rw [List.countP_eq_zero]
  intro p hp
  simpa using (h p hp).ne

/-- The `once` step. -/
lemma onceInv_once (hs : OnceInv s) (definition : SubjectDefinition) (filter : Option (V → Bool))
    (channel : Bool) (options : OnOptions) :
    OnceInv { s with
      registry := Bus.on s.registry definition (.inr s.onces.length) options
      onces := s.onces ++
        [⟨newRegistration s.registry definition (.inr s.onces.length) options, filter, channel,
          true⟩] } := by
  set registration := newRegistration s.registry definition (.inr s.onces.length) options
    with hregistration
  have hnew : ∀ handler, Known s handler → registration.handler ≠ handler := fun handler hknown =>
    newHandler_inr_ne hknown definition options
  have hlength : s.registry.registrations.length ≤
      (Bus.on s.registry definition (.inr s.onces.length) options).registrations.length := by
    simp [registrations_on]
  have honces : s.onces.length ≤ (s.onces ++ [(⟨registration, filter, channel, true⟩ :
      OnceRecord H V)]).length := by simp
  have hold : ∀ r ∈ s.onces, registration.handler ≠ r.handler := fun r hr =>
    hnew _ (hs.known_onces r hr).1
  obtain ⟨hlisted, hwalks⟩ := hs.absent hnew
  constructor
  · exact maps_nodup_on hs.maps_nodup _ _ _
  · intro mapKey key entries hget e he
    rcases handler_of_mem_on hget he with hhandler | ⟨entries', hmem, he⟩
    · rw [hhandler]
      unfold newRegistration
      cases options.hasFilter <;> simp [Known, registrations_on]
    · exact (hs.known_maps mapKey key entries' hmem e he).mono honces hlength
  · exact fun walk hwalk e he => (hs.known_walks walk hwalk e he).mono honces hlength
  · intro r hr
    rcases List.mem_append.mp hr with hr | hr
    · exact ⟨(hs.known_onces r hr).1.mono honces hlength, (hs.known_onces r hr).2⟩
    · rw [List.mem_singleton.mp hr]
      simp only [OnceRecord.handler, hregistration]
      unfold newRegistration
      cases options.hasFilter <;> simp [Known, registrations_on]
  · intro m n r r' hr hr' hhandler
    rcases getElem?_concat_eq_some.mp hr with hr | ⟨rfl, rfl⟩
    · rcases getElem?_concat_eq_some.mp hr' with hr' | ⟨rfl, rfl⟩
      · exact hs.handler_inj m n r r' hr hr' hhandler
      · exact absurd hhandler.symm (hold r (List.mem_of_getElem? hr))
    · rcases getElem?_concat_eq_some.mp hr' with hr' | ⟨rfl, rfl⟩
      · exact absurd hhandler (hold r' (List.mem_of_getElem? hr'))
      · rfl
  · exact fun p hp => lt_of_lt_of_le (hs.known_decrypting p hp) honces
  · exact fun p hp => lt_of_lt_of_le (hs.known_invocations p hp) honces
  · intro n r hr
    rcases getElem?_concat_eq_some.mp hr with hr | ⟨rfl, rfl⟩
    · -- an earlier call: the new function object is a different one
      have htracked := hs.tracked n r hr
      have hheld : held { s with
          registry := Bus.on s.registry definition (.inr s.onces.length) options
          onces := s.onces ++ [(⟨registration, filter, channel, true⟩ : OnceRecord H V)] } n =
          held s n := by
        refine held_congr rfl rfl ?_
        rw [List.getElem?_append_left (List.getElem?_eq_some_iff.mp hr).1]
      refine ⟨htracked.maps_nodup, fun mapKey key => ?_, ?_, htracked.not_fired⟩
      · rw [listed_on]
        dsimp only
        rw [if_neg fun h => hold r (List.mem_of_getElem? hr) h.2.2]
        exact htracked.listed_le mapKey key
      · rw [hheld]
        exact htracked.at_most_once
    · -- the new call: nothing holds its function object yet
      have hfired : fired { s with
          registry := Bus.on s.registry definition (.inr s.onces.length) options
          onces := s.onces ++ [(⟨registration, filter, channel, true⟩ : OnceRecord H V)] }
          s.onces.length = 0 := countP_fst_eq_zero hs.known_invocations
      refine ⟨handlerMaps_nodup definition options, fun mapKey key => ?_, ?_, fun _ => hfired⟩
      · rw [listed_on]
        rw [OnceRecord.handler, hlisted, Nat.zero_add, ← hregistration]
        simp
      · rw [hfired, held_eq hr, countP_fst_eq_zero hs.known_decrypting]
        change heldByWalks s registration.handler + 0 + 0 ≤ 1
        omega

omit [DecidableEq H] in
/-- Unsubscribing a wrapper keeps the function objects of all calls. -/
private lemma map_handler_set {onces : List (OnceRecord H V)} {r : OnceRecord H V} (hr : onces[n]? = some r)
    (m : ℕ) :
    ((onces.set n { r with subscribed := false })[m]?).map OnceRecord.handler =
      (onces[m]?).map OnceRecord.handler := by
  rw [List.getElem?_set]
  split_ifs with hnm hlt
  · subst hnm
    rw [hr]
    rfl
  · rw [List.getElem?_eq_none (by omega)]
  · rfl

/-- The `cancel` step, and the first half of the wrapper. -/
lemma onceInv_unsubscribeOnce (hs : OnceInv s) (n : ℕ) : OnceInv (unsubscribeOnce s n) := by
  unfold unsubscribeOnce
  cases hr : s.onces[n]? with
  | none => exact hs
  | some r =>
    dsimp only
    split_ifs with hsubscribed
    · have hnodup := (hs.tracked n r hr).maps_nodup
      have hunsubscribed := onceInv_unsubscribe hs hnodup
      have hmap := map_handler_set hr
      have hlength : (s.onces.set n { r with subscribed := false }).length = s.onces.length :=
        List.length_set
      have hmem : ∀ (m : ℕ) (r' : OnceRecord H V),
          (s.onces.set n { r with subscribed := false })[m]? = some r' →
          ∃ r'' : OnceRecord H V, s.onces[m]? = some r'' ∧ r''.handler = r'.handler := by
        intro m r' hr'
        have h := hmap m
        rw [hr', Option.map_some, eq_comm, Option.map_eq_some_iff] at h
        exact h
      constructor
      · exact hunsubscribed.maps_nodup
      · exact fun mapKey key entries hget e he =>
          (hunsubscribed.known_maps mapKey key entries hget e he).mono hlength.ge le_rfl
      · exact fun walk hwalk e he =>
          (hunsubscribed.known_walks walk hwalk e he).mono hlength.ge le_rfl
      · intro r' hr'
        obtain ⟨m, hm⟩ := List.getElem?_of_mem hr'
        obtain ⟨r'', hr'', hhandler⟩ := hmem m r' hm
        have hknown := hunsubscribed.known_onces r'' (List.mem_of_getElem? hr'')
        rw [hhandler] at hknown
        exact ⟨hknown.1.mono hlength.ge le_rfl, hknown.2⟩
      · intro m m' r₁ r₂ h₁ h₂ hhandler
        obtain ⟨r₁', h₁', hhandler₁⟩ := hmem m r₁ h₁
        obtain ⟨r₂', h₂', hhandler₂⟩ := hmem m' r₂ h₂
        exact hs.handler_inj m m' r₁' r₂' h₁' h₂' (by rw [hhandler₁, hhandler₂, hhandler])
      · exact fun p hp => lt_of_lt_of_le (hs.known_decrypting p hp) hlength.ge
      · exact fun p hp => lt_of_lt_of_le (hs.known_invocations p hp) hlength.ge
      · intro m r' hr'
        have hheld : held { s with
            registry := unsubscribe s.registry r.registration
            onces := s.onces.set n { r with subscribed := false } } m = held s m :=
          held_congr rfl rfl (hmap m)
        have hset : (s.onces.set n { r with subscribed := false })[m]? = some r' := hr'
        by_cases hnm : n = m
        · -- the one entry of the wrapper is erased from each of its maps
          subst hnm
          obtain rfl : { r with subscribed := false } = r' := by
            rw [List.getElem?_set_self (List.getElem?_eq_some_iff.mp hr).1] at hset
            exact Option.some.inj hset
          refine ⟨hnodup, fun mapKey key => ?_, ?_, fun h => nomatch h⟩
          · have hle := (hs.tracked n r hr).listed_le mapKey key
            rw [listed_unsubscribe s.registry hnodup]
            simp only [OnceRecord.handler, hsubscribed, true_and, and_true] at hle ⊢
            simp only [Bool.false_eq_true, false_and, if_false]
            omega
          · rw [hheld]
            exact (hs.tracked n r hr).at_most_once
        · rw [List.getElem?_set_ne hnm] at hset
          have htracked := hunsubscribed.tracked m r' hset
          refine ⟨htracked.maps_nodup, htracked.listed_le, ?_, htracked.not_fired⟩
          rw [hheld]
          exact htracked.at_most_once
    · exact hs

/-- What the unsubscribing of a wrapper leaves as it is. -/
lemma unsubscribeOnce_frame (s : OnceBus H V) (n : ℕ) :
    (unsubscribeOnce s n).walks = s.walks ∧ (unsubscribeOnce s n).decrypting = s.decrypting ∧
      (unsubscribeOnce s n).invocations = s.invocations ∧
      (∀ m : ℕ, ((unsubscribeOnce s n).onces[m]?).map OnceRecord.handler =
        (s.onces[m]?).map OnceRecord.handler) ∧
      ∀ r, (unsubscribeOnce s n).onces[n]? = some r → r.subscribed = false := by
  unfold unsubscribeOnce
  cases hr : s.onces[n]? with
  | none => exact ⟨rfl, rfl, rfl, fun _ => rfl, fun r hr' => absurd (hr.symm.trans hr') (by simp)⟩
  | some r =>
    dsimp only
    split_ifs with hsubscribed
    · refine ⟨rfl, rfl, rfl, map_handler_set hr, fun r' hr' => ?_⟩
      rw [List.getElem?_set_self (List.getElem?_eq_some_iff.mp hr).1] at hr'
      rw [← Option.some.inj hr']
    · refine ⟨rfl, rfl, rfl, fun _ => rfl, fun r' hr' => ?_⟩
      rw [hr] at hr'
      rw [← Option.some.inj hr']
      simpa using hsubscribed

omit [DecidableEq H] in
/-- The callback of one more call has run. -/
lemma fired_append (s : OnceBus H V) (n m : ℕ) (payload : V) :
    fired { s with invocations := s.invocations ++ [(n, payload)] } m =
      fired s m + if n = m then 1 else 0 := by
  rw [fired, fired, List.countP_append, List.countP_singleton]
  simp only [decide_eq_true_eq]

/-- The wrapper may run when nothing else holds it and the callback has not run. -/
lemma onceInv_runWrapper (hs : OnceInv s) (hn : n < s.onces.length) (hspare : held s n + fired s n = 0)
    (payload : V) : OnceInv (runWrapper s n payload) := by
  obtain ⟨hwalks, hdecrypting, hinvocations, honces, hunsubscribed⟩ := unsubscribeOnce_frame s n
  have hu := onceInv_unsubscribeOnce hs n
  unfold runWrapper
  have hheld : ∀ m, held (unsubscribeOnce s n) m = held s m := fun m =>
    held_congr hwalks hdecrypting (honces m)
  have hfired : ∀ m, fired (unsubscribeOnce s n) m = fired s m := by
    intro m
    rw [fired, fired, hinvocations]
  have hlength : n < (unsubscribeOnce s n).onces.length := by
    have h := honces n
    rw [List.getElem?_eq_getElem hn, Option.map_some, Option.map_eq_some_iff] at h
    obtain ⟨r, hr, -⟩ := h
    exact (List.getElem?_eq_some_iff.mp hr).1
  generalize unsubscribeOnce s n = u at hu hheld hfired hlength hunsubscribed
  refine hu.of_pending hu.known_walks hu.known_decrypting ?_ fun m r hr => ?_
  · intro p hp
    rcases List.mem_append.mp hp with hp | hp
    · exact hu.known_invocations p hp
    · rw [List.mem_singleton.mp hp]
      exact hlength
  · have htracked := hu.tracked m r hr
    have hsame : held { u with invocations := u.invocations ++ [(n, payload)] } m = held u m := rfl
    dsimp only
    rw [hsame, fired_append]
    by_cases hnm : n = m
    · subst hnm
      rw [if_pos rfl, hheld, hfired]
      refine ⟨by omega, fun hsub => ?_⟩
      rw [hunsubscribed r hr] at hsub
      cases hsub
    · rw [if_neg hnm, Nat.add_zero]
      exact ⟨htracked.at_most_once, htracked.not_fired⟩

/-- A function object may be called when it is no wrapper that is held or has run. -/
lemma onceInv_callHandler (hs : OnceInv s)
    (hspare : ∀ (n : ℕ) (r : OnceRecord H V), s.onces[n]? = some r → r.handler = handler →
      held s n + fired s n = 0) (payload : V) : OnceInv (callHandler s handler payload) := by
  unfold callHandler
  cases hfind : s.onces.findIdx? fun r => r.handler = handler with
  | none => exact hs
  | some n =>
    dsimp only
    obtain ⟨hn, hhandler, -⟩ := List.findIdx?_eq_some_iff_getElem.mp hfind
    have hr := List.getElem?_eq_getElem hn
    have hzero := hspare n _ hr (by simpa using hhandler)
    rw [hr]
    dsimp only
    split_ifs with hfilter hchannel
    · -- the proxy starts to decrypt
      refine hs.of_pending hs.known_walks ?_ hs.known_invocations fun m r' hr' => ?_
      · intro p hp
        rcases List.mem_append.mp hp with hp | hp
        · exact hs.known_decrypting p hp
        · rw [List.mem_singleton.mp hp]
          exact hn
      · have htracked := hs.tracked m r' hr'
        have hheld : held { s with decrypting := s.decrypting ++ [(n, payload)] } m =
            held s m + if n = m then 1 else 0 := by
          rw [held, held, List.countP_append, List.countP_singleton, ← Nat.add_assoc]
          simp only [decide_eq_true_eq]
          rfl
        have hfired : fired { s with decrypting := s.decrypting ++ [(n, payload)] } m =
            fired s m := rfl
        dsimp only
        rw [hheld, hfired]
        refine ⟨?_, htracked.not_fired⟩
        have hle := htracked.at_most_once
        split_ifs with hnm
        · subst hnm
          omega
        · omega
    · exact onceInv_runWrapper hs hn hzero payload
    · exact hs

/-- What the walks hold after one more. -/
lemma held_append_walk {r : OnceRecord H V} (hr : s.onces[n]? = some r) (walk : HandlerWalk H V) :
    held { s with walks := s.walks ++ [walk] } n =
      held s n + walk.rest.countP fun entry => entry.handler = r.handler := by
  rw [held_eq hr, held_eq (s := { s with walks := s.walks ++ [walk] }) hr, heldByWalks, heldByWalks]
  simp only [List.map_append, List.map_cons, List.map_nil, List.sum_append, List.sum_singleton]
  omega

/-- A walk may start when it takes up each wrapper at most once, and only wrappers that are not held
and have not run. -/
lemma onceInv_append_walk (hs : OnceInv s) (hknown : ∀ e ∈ walk.rest, Known s e.handler)
    (hfree : FreeSnapshot s walk.rest) (hcount : ∀ (n : ℕ) (r : OnceRecord H V), s.onces[n]? = some r →
      (walk.rest.countP fun entry => entry.handler = r.handler) ≤ 1)
    (hfired : ∀ (n : ℕ) (r : OnceRecord H V), s.onces[n]? = some r → 0 < fired s n →
      (walk.rest.countP fun entry => entry.handler = r.handler) = 0) :
    OnceInv { s with walks := s.walks ++ [walk] } := by
  refine hs.of_pending ?_ hs.known_decrypting hs.known_invocations fun n r hr => ?_
  · intro walk' hwalk'
    rcases List.mem_append.mp hwalk' with hwalk' | hwalk'
    · exact hs.known_walks walk' hwalk'
    · rw [List.mem_singleton.mp hwalk']
      exact hknown
  · have htracked := hs.tracked n r hr
    have hsame : fired { s with walks := s.walks ++ [walk] } n = fired s n := rfl
    dsimp only
    rw [held_append_walk hr, hsame]
    refine ⟨?_, htracked.not_fired⟩
    rcases Nat.eq_zero_or_pos (walk.rest.countP fun entry => entry.handler = r.handler) with h | h
    · rw [h]
      exact htracked.at_most_once
    · -- the snapshot takes the wrapper up: it is not held and has not run
      obtain ⟨entry, hentry, hhandler⟩ := List.countP_pos_iff.mp h
      have hhandler : entry.handler = r.handler := by simpa using hhandler
      have hheld : held s n = 0 := by
        refine hfree entry hentry n ?_
        rw [hhandler]
        exact hs.findIdx?_handler hr
      have hzero : fired s n = 0 := by
        by_contra hpos
        have := hfired n r hr (Nat.pos_of_ne_zero hpos)
        omega
      have := hcount n r hr
      omega

/-- The handlers of a subject are known, list every wrapper at most once, and none whose callback has
run. -/
lemma OnceInv.snapshot (hs : OnceInv s) (mapKey : HandlerMapKey) (subject : Key) :
    let snapshot := getMatchingHandlerEntries (s.registry.handlers mapKey) subject
    (∀ e ∈ snapshot, Known s e.handler) ∧
      ∀ (n : ℕ) (r : OnceRecord H V), s.onces[n]? = some r →
        (snapshot.countP fun entry => entry.handler = r.handler) ≤ 1 ∧
        (0 < fired s n → (snapshot.countP fun entry => entry.handler = r.handler) = 0) := by
  refine ⟨fun e he => ?_, fun n r hr => ⟨?_, fun hfired => ?_⟩⟩
  · obtain ⟨pattern, entries, hget, -, he⟩ := mem_getMatchingHandlerEntries.mp he
    exact hs.known_maps mapKey pattern entries hget e he
  · refine countP_getMatchingHandlerEntries_le_one r.registration.key (fun key => ?_) subject
    refine ((hs.tracked n r hr).listed_le mapKey key).trans ?_
    split_ifs with h h'
    · exact le_rfl
    · exact absurd h.2.2 h'
    · exact Nat.zero_le _
    · exact le_rfl
  · have hsubscribed : r.subscribed = false := by
      by_contra h
      have := (hs.tracked n r hr).not_fired (by simpa using h)
      omega
    rw [List.countP_eq_zero]
    intro e he hhandler
    obtain ⟨pattern, entries, hget, -, he⟩ := mem_getMatchingHandlerEntries.mp he
    have hzero := (hs.tracked n r hr).listed_le mapKey pattern
    rw [if_neg (by simp [hsubscribed]), listed, hget, Option.getD_some, Nat.le_zero,
      List.countP_eq_zero] at hzero
    exact hzero e he hhandler

/-- What the walks hold after the walk number `i` is replaced. -/
lemma heldByWalks_set (hwalk : s.walks[i]? = some walk) (walk' : HandlerWalk H V)
    (handler : HandlerRef (OnceFunction H)) :
    heldByWalks { s with walks := s.walks.set i walk' } handler +
        (walk.rest.countP fun entry => entry.handler = handler) =
      heldByWalks s handler + walk'.rest.countP fun entry => entry.handler = handler := by
  rw [heldByWalks, heldByWalks]
  exact sum_map_set _ hwalk

/-- A walk is replaced by a part of it. -/
lemma onceInv_set_walk (hs : OnceInv s) {walk' : HandlerWalk H V} (hwalk : s.walks[i]? = some walk)
    (hrest : walk'.rest <:+ walk.rest) :
    OnceInv { s with walks := s.walks.set i walk' } := by
  refine hs.of_pending ?_ hs.known_decrypting hs.known_invocations fun n r hr => ?_
  · intro w hw
    rcases List.mem_or_eq_of_mem_set hw with hw | rfl
    · exact hs.known_walks w hw
    · exact fun e he => hs.known_walks walk (List.mem_of_getElem? hwalk) e (hrest.subset he)
  · have htracked := hs.tracked n r hr
    have hle := htracked.at_most_once
    have hset := heldByWalks_set hwalk walk' r.handler
    have hcount := hrest.sublist.countP_le (p := fun entry => decide (entry.handler = r.handler))
    have hfired : fired { s with walks := s.walks.set i walk' } n = fired s n := rfl
    dsimp only
    rw [hfired]
    refine ⟨?_, htracked.not_fired⟩
    rw [held_eq hr] at hle
    rw [held_eq (s := { s with walks := s.walks.set i walk' }) hr]
    dsimp only
    omega

/-- The `call` step: the handler called is no longer held by its walk. -/
lemma onceInv_call (hs : OnceInv s) {payload : V} {entry : HandlerEntry (HandlerRef (OnceFunction H))}
    {rest : List (HandlerEntry (HandlerRef (OnceFunction H)))}
    (hwalk : s.walks[i]? = some ⟨payload, entry :: rest⟩) :
    OnceInv (callHandler { s with walks := s.walks.set i ⟨payload, rest⟩ } entry.handler payload) := by
  refine onceInv_callHandler (onceInv_set_walk hs hwalk (List.suffix_cons entry rest)) ?_ payload
  intro n r hr hhandler
  have hle := (hs.tracked n r hr).at_most_once
  have hset := heldByWalks_set hwalk ⟨payload, rest⟩ r.handler
  have hfired : fired { s with walks := s.walks.set i ⟨payload, rest⟩ } n = fired s n := rfl
  rw [held_eq (s := s) hr] at hle
  rw [held_eq hr, hfired]
  simp only [List.countP_cons, hhandler, decide_true, if_true] at hset
  rw [← hhandler] at hset
  dsimp only
  omega

/-- The `stop` step. -/
lemma onceInv_eraseIdx_walk (hs : OnceInv s) (hi : i < s.walks.length) :
    OnceInv { s with walks := s.walks.eraseIdx i } := by
  refine hs.of_pending ?_ hs.known_decrypting hs.known_invocations fun n r hr => ?_
  · exact fun walk hwalk => hs.known_walks walk (List.mem_of_mem_eraseIdx hwalk)
  · have htracked := hs.tracked n r hr
    have hle := htracked.at_most_once
    have herase : heldByWalks { s with walks := s.walks.eraseIdx i } r.handler ≤
        heldByWalks s r.handler := by
      rw [heldByWalks, heldByWalks, ← sum_map_eraseIdx _ (List.getElem?_eq_getElem hi)]
      exact Nat.le_add_right _ _
    have hfired : fired { s with walks := s.walks.eraseIdx i } n = fired s n := rfl
    dsimp only
    rw [hfired]
    refine ⟨?_, htracked.not_fired⟩
    rw [held_eq hr] at hle
    rw [held_eq (s := { s with walks := s.walks.eraseIdx i }) hr]
    dsimp only
    omega

/-- The `decrypted` step. -/
lemma onceInv_decrypted (hs : OnceInv s) {j : ℕ} {pending : ℕ × V}
    (hpending : s.decrypting[j]? = some pending) :
    OnceInv { s with decrypting := s.decrypting.eraseIdx j } ∧
      OnceInv (runWrapper { s with decrypting := s.decrypting.eraseIdx j } pending.1 pending.2) := by
  have hheld : ∀ (n : ℕ), held { s with decrypting := s.decrypting.eraseIdx j } n +
      (if pending.1 = n then 1 else 0) = held s n := by
    intro n
    have := countP_eraseIdx (p := fun pending : ℕ × V => decide (pending.1 = n)) hpending
    simp only [decide_eq_true_eq] at this
    rw [held, held, ← this, ← Nat.add_assoc]
    rfl
  have herase : OnceInv { s with decrypting := s.decrypting.eraseIdx j } := by
    refine hs.of_pending hs.known_walks ?_ hs.known_invocations fun n r hr => ?_
    · exact fun p hp => hs.known_decrypting p (List.mem_of_mem_eraseIdx hp)
    · have hle := (hs.tracked n r hr).at_most_once
      have h := hheld n
      have hfired : fired { s with decrypting := s.decrypting.eraseIdx j } n = fired s n := rfl
      dsimp only
      rw [hfired]
      exact ⟨by omega, (hs.tracked n r hr).not_fired⟩
  refine ⟨herase, ?_⟩
  have hn := hs.known_decrypting pending (List.mem_of_getElem? hpending)
  refine onceInv_runWrapper herase hn ?_ pending.2
  have hle := (hs.tracked pending.1 _ (List.getElem?_eq_getElem hn)).at_most_once
  have h := hheld pending.1
  have hfired : fired { s with decrypting := s.decrypting.eraseIdx j } pending.1 =
      fired s pending.1 := rfl
  rw [if_pos rfl] at h
  rw [hfired]
  omega

/-- **The step lemma**: an action that takes up no wrapper already held keeps the invariant. -/
theorem onceInv_step {s : OnceBus H V} {a : OnceAction H V} (hs : OnceInv s) (hfree : SnapshotsFree s a)
    (hstep : onceStep s a = some t) : OnceInv t := by
  cases a with
  | on definition handler options =>
    cases hstep
    exact onceInv_on hs definition handler options
  | unsubscribe id =>
    obtain ⟨r, hfind, rfl⟩ := Option.map_eq_some_iff.mp hstep
    exact onceInv_unsubscribe hs (hs.maps_nodup r (List.mem_of_find?_eq_some hfind))
  | once definition filter channel =>
    cases hstep
    exact onceInv_once hs definition filter channel _
  | cancel n =>
    cases hstep
    exact onceInv_unsubscribeOnce hs n
  | emit subject payload =>
    cases hstep
    obtain ⟨hknown, hcount⟩ := hs.snapshot .eventHandlers subject
    exact onceInv_append_walk hs hknown hfree (fun n r hr => (hcount n r hr).1)
      fun n r hr => (hcount n r hr).2
  | request subject payload cursor =>
    cases hstep
    obtain ⟨hknown, hcount⟩ := hs.snapshot .requestHandlers subject
    have hfilter : (requestSnapshot s subject cursor).Sublist
        (getMatchingHandlerEntries s.registry.requestHandlers subject) := List.filter_sublist
    refine onceInv_append_walk hs (fun e he => hknown e (hfilter.subset he)) hfree
      (fun n r hr => hfilter.countP_le.trans (hcount n r hr).1) fun n r hr hfired => ?_
    exact Nat.le_zero.mp (((hcount n r hr).2 hfired) ▸ hfilter.countP_le)
  | call i =>
    rw [onceStep] at hstep
    split at hstep
    next payload entry rest hwalk =>
      cases hstep
      exact onceInv_call hs hwalk
    next => cases hstep
  | stop i =>
    rw [onceStep] at hstep
    split_ifs at hstep with hi
    cases hstep
    exact onceInv_eraseIdx_walk hs hi
  | next i =>
    obtain ⟨walk, hwalk, rfl⟩ := Option.map_eq_some_iff.mp hstep
    have hmem := List.mem_of_getElem? hwalk
    -- what the walk holds is held, so the snapshot takes up no wrapper at all
    have hzero : ∀ (n : ℕ) (r : OnceRecord H V), s.onces[n]? = some r →
        (walk.rest.countP fun entry => entry.handler = r.handler) = 0 := by
      intro n r hr
      by_contra hpos
      obtain ⟨entry, hentry, hhandler⟩ := List.countP_pos_iff.mp (Nat.pos_of_ne_zero hpos)
      have hhandler : entry.handler = r.handler := by simpa using hhandler
      have hheld := hfree walk hwalk entry hentry n (hhandler ▸ hs.findIdx?_handler hr)
      rw [held_eq hr] at hheld
      have hle := List.single_le_sum (l := s.walks.map fun walk =>
        walk.rest.countP fun entry => entry.handler = r.handler) (fun _ _ => Nat.zero_le _) _
        (List.mem_map.mpr ⟨walk, hmem, rfl⟩)
      unfold heldByWalks at hheld
      omega
    exact onceInv_append_walk hs (hs.known_walks walk hmem) (hfree walk hwalk)
      (fun n r hr => (hzero n r hr).le.trans (Nat.zero_le 1)) fun n r hr _ => hzero n r hr
  | replacePayload i payload =>
    obtain ⟨walk, hwalk, rfl⟩ := Option.map_eq_some_iff.mp hstep
    exact onceInv_set_walk hs hwalk (List.suffix_refl _)
  | decrypted j ok =>
    obtain ⟨pending, hpending, rfl⟩ := Option.map_eq_some_iff.mp hstep
    obtain ⟨herase, hrun⟩ := onceInv_decrypted hs hpending
    cases ok with
    | false => exact herase
    | true => exact hrun

end Invariant

/-! ### Runs -/

section Runs

variable {H V : Type} [DecidableEq H]

/-- **A once() callback runs at most once** along every run in which no emit, request or repeated
`next()` takes up a wrapper that another walk, or a decryption, still holds. -/
theorem once_atMostOnce {s : OnceBus H V}
    (hreach : Reach (fun s => s = OnceBus.empty) onceStep SnapshotsFree s) (n : ℕ) :
    fired s n ≤ 1 := by
  have hinv : OnceInv s := by
    refine Reach.invariant OnceInv ?_ (fun s a t hs hok hstep => onceInv_step hs hok hstep) hreach
    rintro s rfl
    exact onceInv_empty
  rcases Nat.lt_or_ge n s.onces.length with hn | hn
  · have := (hinv.tracked n _ (List.getElem?_eq_getElem hn)).at_most_once
    omega
  · have hzero : fired s n = 0 := by
      rw [fired, List.countP_eq_zero]
      intro p hp
      simpa using (lt_of_lt_of_le (hinv.known_invocations p hp) hn).ne
    omega

/-- A handler and a `once()` call of one event, which is emitted. -/
def onceAndSibling : List (OnceAction ℕ ℕ) :=
  let definition : SubjectDefinition := ⟨"a", "d", false, false, none⟩
  [.on definition 0 .none, .once definition none false, .emit "d.a" 1, .call 0]

/-- The event is emitted again when the first emit is done. -/
theorem once_atMostOnce_sequential :
    ∃ s, runGuarded onceStep SnapshotsFree OnceBus.empty
        (onceAndSibling ++ [.call 0, .emit "d.a" 2, .call 1]) = some s ∧
      fired s 0 = 1 ∧ fired s 0 ≤ 1 := by
  refine ⟨_, rfl, by decide, once_atMostOnce ?_ 0⟩
  exact Reach.of_runGuarded (onceAndSibling ++ [.call 0, .emit "d.a" 2, .call 1]) (.start rfl) rfl

/-- The sibling emits the event again while it is called: the callback runs in the inner emit, and
once more in the outer one. -/
theorem once_fires_twice :
    ∃ s, runGuarded onceStep (fun _ _ => True) OnceBus.empty
        (onceAndSibling ++ [.emit "d.a" 2, .call 1, .call 1, .call 0]) = some s ∧
      ¬ fired s 0 ≤ 1 := by
  refine ⟨_, rfl, ?_⟩
  decide

end Runs

end Makaio.Bus
