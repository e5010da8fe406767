import Makaio.Bus.Context
import Makaio.Foundations.DoubleInteger

set_option autoImplicit false

/-!
# The merged dispatch list

Dispatch walks one list of the bus's own handlers and of the routes to its peers, highest priority
first and local before remote at equal priority (`methods/request/merged-list.ts`).  A request that
arrives over a transport carries a *cursor*: the receiver starts at the first entry strictly below
it.  A remote entry is in turn sent a cursor computed from the entry before it: its priority, and one
more where the two are tied.  Priorities are integers of double precision, in which the one can be
lost.

## Main definitions

* `buildMergedList` — the list.
* `resolveStartIndex`, `resolveRemoteCursor` — where a node begins, and
  where the node it forwards to begins.
* `BelowCursor` — the priorities a cursor leaves to the receiver.
* `Tied` — the entry before one has its priority.

## Main results

* `drop_resolveStartIndex` — the walk visits exactly the entries below the cursor.
* `belowCursor_resolveRemoteCursor_iff` — when a remote entry lies below the cursor it is
  sent.
* `belowCursor_resolveRemoteCursor_of_first` — so does every entry of the same transport
  from the first one on.
-/

namespace Makaio.Bus

open Foundations

/-- An entry of the merged dispatch list. -/
inductive MergedEntry (H : Type)
  | localEntry (entry : HandlerEntry H)
  | remoteEntry (route : RemoteRoute)
  deriving DecidableEq

namespace MergedEntry

variable {H : Type}

/-- The priority of an entry. -/
def priority : MergedEntry H → ℤ
  | localEntry entry => entry.priority
  | remoteEntry route => route.priority

/-- The comparison function of the sort: descending priority, local entries precede remote entries
on ties. -/
def compare (a b : MergedEntry H) : ℤ :=
  if b.priority ≠ a.priority then b.priority - a.priority
  else match a, b with
    | localEntry _, remoteEntry _ => -1
    | remoteEntry _, localEntry _ => 1
    | _, _ => 0

/-- Priority and kind in one number: twice the priority, and one more for a local entry. -/
def rank : MergedEntry H → ℤ
  | localEntry entry => 2 * entry.priority + 1
  | remoteEntry route => 2 * route.priority

/-- The comparison function orders by rank. -/
lemma compare_le_zero_iff (a b : MergedEntry H) : compare a b ≤ 0 ↔ rank b ≤ rank a := by
  cases a <;> cases b <;> simp only [compare, priority, rank] <;> split_ifs <;> omega

/-- The rank decides the priority. -/
lemma priority_le_of_rank_le {a b : MergedEntry H} (h : rank b ≤ rank a) :
    priority b ≤ priority a := by
  cases a <;> cases b <;> simp only [rank] at h <;> simp only [priority] <;> omega

end MergedEntry

section Construction

variable {H : Type}

/-- Build a merged, priority-sorted list of local handler entries and remote transport entries. -/
def buildMergedList (localEntries : List (HandlerEntry H)) (remoteEntries : List RemoteRoute) :
    List (MergedEntry H) :=
  let merged := localEntries.map MergedEntry.localEntry ++
    remoteEntries.map MergedEntry.remoteEntry
  merged.insertionSort fun a b => MergedEntry.compare a b ≤ 0

/-- Apply an explicit transport allowlist to remote entries; when none of them is allowed, one
entry per allowed transport that is ready. -/
def resolveRemoteEntries (context : BusContext H) (remoteEntries : List RemoteRoute)
    (allowedTransports : Option (List String)) : List RemoteRoute :=
  match allowedTransports with
  | none | some [] => remoteEntries
  | some allowed =>
    let filtered := remoteEntries.filter fun entry => entry.transport ∈ allowed
    if filtered.length > 0 then filtered
    else (allowed.eraseDups.filter fun name => context.transports.get? name = some true).map
      fun transport => ⟨transport, 0⟩

/-- Resolve the index where this node's chain begins; none when every entry is at or above the
cursor. -/
def resolveStartIndex (merged : List (MergedEntry H)) (cursor : Option ℤ) : Option ℕ :=
  match cursor with
  | some cursor => merged.findIdx? fun entry => entry.priority < cursor
  | none => some 0

/-- Resolve the priority cursor sent to a remote hop. -/
def resolveRemoteCursor (merged : List (MergedEntry H)) (nextIndex : ℕ) (entryPriority : ℤ)
    (incomingCursor : Option ℤ) : Option ℤ :=
  if nextIndex < 2 then incomingCursor
  else (merged[nextIndex - 2]?).map fun previous =>
    let base := previous.priority
    if base = entryPriority then addOne base else base

/-- A cursor leaves the priorities strictly below it to the receiver; no cursor leaves all. -/
def BelowCursor (cursor : Option ℤ) (priority : ℤ) : Prop := ∀ c ∈ cursor, priority < c

instance (cursor : Option ℤ) (priority : ℤ) : Decidable (BelowCursor cursor priority) :=
  match cursor with
  | none => isTrue fun c hc => nomatch hc
  | some c => decidable_of_iff (priority < c) (by simp [BelowCursor])

@[simp] lemma belowCursor_none (priority : ℤ) : BelowCursor none priority :=
  fun c hc => nomatch hc

@[simp] lemma belowCursor_some {c priority : ℤ} : BelowCursor (some c) priority ↔ priority < c := by
  simp [BelowCursor]

/-- A cursor that leaves a priority leaves every lower one. -/
lemma BelowCursor.of_le {cursor : Option ℤ} {p q : ℤ} (hp : BelowCursor cursor p) (hqp : q ≤ p) :
    BelowCursor cursor q :=
  fun c hc => lt_of_le_of_lt hqp (hp c hc)

/-- The merged list is the stable sort by rank. -/
lemma buildMergedList_eq_sortDesc (localEntries : List (HandlerEntry H))
    (remoteEntries : List RemoteRoute) :
    buildMergedList localEntries remoteEntries = sortDesc MergedEntry.rank
      (localEntries.map MergedEntry.localEntry ++ remoteEntries.map MergedEntry.remoteEntry) := by
  unfold buildMergedList sortDesc
  simp only [MergedEntry.compare_le_zero_iff]

variable {localEntries : List (HandlerEntry H)} {remoteEntries : List RemoteRoute}

/-- The merged list holds the local entries and the remote ones. -/
theorem mem_buildMergedList {e : MergedEntry H} :
    e ∈ buildMergedList localEntries remoteEntries ↔
      (∃ entry ∈ localEntries, e = .localEntry entry) ∨
        ∃ route ∈ remoteEntries, e = .remoteEntry route := by
  rw [buildMergedList_eq_sortDesc, mem_sortDesc, List.mem_append, List.mem_map, List.mem_map]
  simp only [eq_comm]

@[simp] lemma localEntry_mem_buildMergedList {entry : HandlerEntry H} :
    MergedEntry.localEntry entry ∈ buildMergedList localEntries remoteEntries ↔
      entry ∈ localEntries := by
  simp [mem_buildMergedList]

@[simp] lemma remoteEntry_mem_buildMergedList {route : RemoteRoute} :
    MergedEntry.remoteEntry route ∈ buildMergedList localEntries remoteEntries ↔
      route ∈ remoteEntries := by
  simp [mem_buildMergedList]

/-- The merged list is in descending priority order. -/
theorem descending_buildMergedList (localEntries : List (HandlerEntry H))
    (remoteEntries : List RemoteRoute) :
    Descending MergedEntry.priority (buildMergedList localEntries remoteEntries) := by
  rw [buildMergedList_eq_sortDesc]
  have hrank : Descending MergedEntry.rank _ := descending_sortDesc
    (localEntries.map MergedEntry.localEntry ++ remoteEntries.map MergedEntry.remoteEntry)
  exact List.Pairwise.imp (fun h => MergedEntry.priority_le_of_rank_le h) hrank

end Construction

/-! ### The start of the walk -/

section Start

variable {H : Type} {merged : List (MergedEntry H)} {cursor : Option ℤ}

/-- **The walk visits exactly the entries below the cursor.** -/
theorem drop_resolveStartIndex (hsorted : Descending MergedEntry.priority merged) {start : ℕ}
    (hstart : resolveStartIndex merged cursor = some start) :
    merged.drop start = merged.filter fun e => BelowCursor cursor e.priority := by
  cases cursor with
  | none =>
    obtain rfl : 0 = start := by simpa [resolveStartIndex] using hstart
    simp
  | some c =>
    have hdrop := hsorted.dropWhile_eq_filter c
    simp only [belowCursor_some, ← hdrop]
    have hfind : merged.findIdx (fun e => decide (e.priority < c)) = start :=
      (List.findIdx?_eq_some_iff_findIdx_eq.mp hstart).2
    rw [List.dropWhile_eq_drop_findIdx_not]
    simp [hfind]

/-- Without a start index no entry is below the cursor. -/
lemma not_belowCursor_of_resolveStartIndex_eq_none
    (hstart : resolveStartIndex merged cursor = none) {e : MergedEntry H} (he : e ∈ merged) :
    ¬ BelowCursor cursor e.priority := by
  cases cursor with
  | none => exact absurd hstart (by simp [resolveStartIndex])
  | some c =>
    have h := List.findIdx?_eq_none_iff.mp hstart e he
    simpa using h

/-- An entry at or after the start is below the cursor, one before it is not. -/
lemma start_le_iff (hsorted : Descending MergedEntry.priority merged) {start : ℕ}
    (hstart : resolveStartIndex merged cursor = some start) {i : ℕ} {e : MergedEntry H}
    (he : merged[i]? = some e) : start ≤ i ↔ BelowCursor cursor e.priority := by
  cases cursor with
  | none =>
    obtain rfl : 0 = start := by simpa [resolveStartIndex] using hstart
    simp
  | some c =>
    obtain ⟨hlt, hc, hbefore⟩ := List.findIdx?_eq_some_iff_getElem.mp hstart
    obtain ⟨hi, rfl⟩ := List.getElem?_eq_some_iff.mp he
    rw [belowCursor_some]
    constructor
    · intro h
      rcases Nat.eq_or_lt_of_le h with rfl | h
      · simpa using hc
      · have hle := List.pairwise_iff_getElem.mp hsorted start i hlt hi h
        have hc' : merged[start].priority < c := by simpa using hc
        omega
    · intro h
      by_contra hlt'
      have := hbefore i (by omega)
      simp only [decide_eq_true_eq] at this
      exact this h

end Start

/-! ### The cursor sent to a peer -/

section RemoteCursor

variable {H : Type} {merged : List (MergedEntry H)} {cursor : Option ℤ}

/-- The entry before index `i` has priority `p`. -/
def Tied (merged : List (MergedEntry H)) (i : ℕ) (p : ℤ) : Prop :=
  ∃ previous, 0 < i ∧ merged[i - 1]? = some previous ∧ previous.priority = p

/-- The cursor sent for a later entry comes from the entry before it. -/
lemma resolveRemoteCursor_succ {i : ℕ} {previous : MergedEntry H} (p : ℤ)
    (hprevious : merged[i]? = some previous) :
    resolveRemoteCursor merged (i + 2) p cursor =
      some (if previous.priority = p then addOne previous.priority else previous.priority) := by
  simp [resolveRemoteCursor, hprevious]

/-- **When an entry lies below the cursor it is sent**: the entry before it is no tie, or one can be
added to its priority. -/
theorem belowCursor_resolveRemoteCursor_iff (hsorted : Descending MergedEntry.priority merged)
    {i : ℕ} {e : MergedEntry H} (he : merged[i]? = some e)
    (hbelow : BelowCursor cursor e.priority) :
    BelowCursor (resolveRemoteCursor merged (i + 1) e.priority cursor) e.priority ↔
      (Tied merged i e.priority → e.priority < addOne e.priority) := by
  cases i with
  | zero =>
    refine ⟨fun _ htied => ?_, fun _ => hbelow⟩
    obtain ⟨-, hpos, -⟩ := htied
    exact absurd hpos (lt_irrefl 0)
  | succ i =>
    obtain ⟨hi, rfl⟩ := List.getElem?_eq_some_iff.mp he
    have hprevious := List.getElem?_eq_getElem (by omega : i < merged.length)
    rw [resolveRemoteCursor_succ _ hprevious, belowCursor_some]
    have hle := List.pairwise_iff_getElem.mp hsorted i (i + 1) (by omega) hi (by omega)
    by_cases htie : merged[i].priority = merged[i + 1].priority
    · rw [if_pos htie, htie]
      exact ⟨fun h _ => h, fun h => h ⟨_, by omega, hprevious, htie⟩⟩
    · rw [if_neg htie]
      refine ⟨fun _ htied => ?_, fun _ => lt_of_le_of_ne hle (Ne.symm htie)⟩
      obtain ⟨previous, -, hget, hpriority⟩ := htied
      rw [Nat.add_sub_cancel, hprevious] at hget
      exact absurd (Option.some.inj hget ▸ hpriority) htie

/-- **From the first entry of a transport on**, every entry of that transport lies below the
cursor the first one is sent, if that entry does. -/
theorem belowCursor_resolveRemoteCursor_of_first
    (hsorted : Descending MergedEntry.priority merged) {start : ℕ}
    (hstart : resolveStartIndex merged cursor = some start) {i : ℕ} {route : RemoteRoute}
    (hi : merged[i]? = some (.remoteEntry route))
    (hfirst : ∀ j route', start ≤ j → j < i → merged[j]? = some (.remoteEntry route') →
      route'.transport ≠ route.transport)
    (hown : BelowCursor (resolveRemoteCursor merged (i + 1) route.priority cursor) route.priority)
    {route' : RemoteRoute} (hmem : MergedEntry.remoteEntry route' ∈ merged)
    (htransport : route'.transport = route.transport) (hbelow : BelowCursor cursor route'.priority) :
    BelowCursor (resolveRemoteCursor merged (i + 1) route.priority cursor) route'.priority := by
  obtain ⟨j, hj⟩ := List.mem_iff_getElem?.mp hmem
  have hstartj : start ≤ j := (start_le_iff hsorted hstart hj).mpr hbelow
  have hij : i ≤ j := by
    by_contra hlt
    exact hfirst j route' hstartj (by omega) hj htransport
  refine hown.of_le ?_
  rcases Nat.eq_or_lt_of_le hij with rfl | hlt
  · rw [hi] at hj
    injection hj with hj
    injection hj with hj
    rw [hj]
  · obtain ⟨hi', hie⟩ := List.getElem?_eq_some_iff.mp hi
    obtain ⟨hj', hje⟩ := List.getElem?_eq_some_iff.mp hj
    have h := List.pairwise_iff_getElem.mp hsorted i j hi' hj' hlt
    rw [hie, hje] at h
    exact h

/-- Every cursor sent is at least the priority of its entry, and at most one above the priority
of the entry before it unless that is a tie and two are added. -/
theorem resolveRemoteCursor_bounds (cursor : Option ℤ)
    (hsorted : Descending MergedEntry.priority merged) {i : ℕ} {e previous : MergedEntry H}
    (he : merged[i + 1]? = some e) (hprevious : merged[i]? = some previous) :
    ∃ c, resolveRemoteCursor merged (i + 2) e.priority cursor = some c ∧ e.priority ≤ c ∧
      (c ≤ previous.priority + 1 ↔
        (previous.priority = e.priority → addOne e.priority ≤ e.priority + 1)) := by
  refine ⟨_, resolveRemoteCursor_succ _ hprevious, ?_⟩
  obtain ⟨hi, rfl⟩ := List.getElem?_eq_some_iff.mp hprevious
  obtain ⟨hi', rfl⟩ := List.getElem?_eq_some_iff.mp he
  have hle := List.pairwise_iff_getElem.mp hsorted i (i + 1) hi hi' (by omega)
  have hone := le_addOne merged[i].priority
  split_ifs with h
  · rw [h] at hone ⊢
    exact ⟨hone, fun h _ => h, fun hbound => hbound rfl⟩
  · exact ⟨hle, fun _ htie => absurd htie h, fun _ => by omega⟩

end RemoteCursor

end Makaio.Bus
