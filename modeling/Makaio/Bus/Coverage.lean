import Makaio.Bus.Bounds
import Makaio.Bus.Pair

set_option autoImplicit false

/-!
# No handler is skipped

A dispatch that gives up has run everything it could: every handler of its own bus below the
incoming cursor, and every handler below it on every bus it is connected to.  The cursors make
this so.  A peer is sent one request per advertised priority, and the first of these requests
carries a cursor above everything the peer still has to run.

Where the first request is tied with the entry before it, this cursor is its priority and one more.
From `2 ^ 53` on the one can be lost, and then the peer's handlers at that priority are skipped.

The walk over a merged list is inverted once (`stepDispatch_unhandled`): a walk that ends unhandled
has invoked each local entry and has got a "no handler" answer from each remote entry.  Such an
answer comes from a dispatch at the peer that ended unhandled, provided that handlers do not throw:
an error that a handler throws can look like that answer.

## Main definitions

* `CursorsCover` — what the cursors sent are to reach.
* `TiesExact` — one can be added wherever a tie asks for it.

## Main results

* `stepDispatch_unhandled` — a walk that ends unhandled.
* `dispatch_unhandled_local` — it ran every local handler below the cursor.
* `deliver_noHandler` — a "no handler" answer comes from an unhandled dispatch.
* `dispatch_skips_no_handler` — cursors and coverage together.
* `dispatch_skips_tied_handler` — a tie at `2 ^ 53`.
-/

namespace Makaio.Bus

open Foundations

section Walk

variable {N H V : Type} [ObjectSpread V] {net : Network N H V} {node : N}
  {send : String → BusRequestMessage V → NetworkRun N H V V} {definition : SubjectDefinition}
  {merged : List (MergedEntry H)} {options : DispatchOptions}

omit [ObjectSpread V] in
/-- A remote entry that leaves the request unhandled has been answered "no handler", and the rest
of the chain left the request unhandled with the same transport error. -/
lemma executeRemoteEntry_unhandled {payload : V} {entry : RemoteRoute} {nextIndex : ℕ}
    {firstTransportError : Option BusError}
    {skipToNext : Option BusError → NetworkRun N H V (Option V)}
    (hskip : ∀ error, (skipToNext error).ending = .value none → error = none)
    (h : (executeRemoteEntry net node send definition payload entry merged nextIndex options
      firstTransportError skipToNext).ending = .value none) :
    (skipToNext firstTransportError).ending = .value none ∧
      (skipToNext firstTransportError).trace ⊆
        (executeRemoteEntry net node send definition payload entry merged nextIndex options
          firstTransportError skipToNext).trace ∧
      ((net.context node).transports.has entry.transport = true →
        let run := send entry.transport (requestMessage definition payload
          (resolveRemoteCursor merged nextIndex entry.priority options.priority))
        run.trace ⊆ (executeRemoteEntry net node send definition payload entry merged nextIndex
          options firstTransportError skipToNext).trace ∧
        ∃ error, run.ending = .error error ∧ error.isNoHandlerErrorForSubject
          (getFullSubjectForSubjectDefinition definition) = true) := by
  unfold executeRemoteEntry at h ⊢
  by_cases hhas : (net.context node).transports.has entry.transport = true
  · simp only [if_pos hhas] at h ⊢
    obtain ⟨answer, hend, hrest, htrace⟩ := Traced.exists_of_settle_eq (r := .ok none) h
    rw [htrace]
    cases answer with
    | ok result => cases hrest
    | error error =>
      by_cases hno : error.isNoHandlerErrorForSubject
          (getFullSubjectForSubjectDefinition definition) = true
      · simp only [if_pos hno] at hrest ⊢
        exact ⟨hrest, List.subset_append_right _ _,
          fun _ => ⟨List.subset_append_left _ _, error, hend, hno⟩⟩
      · -- a carried transport error would be rethrown at the end of the chain
        simp only [if_neg hno] at hrest
        have hnone := hskip _ hrest
        cases firstTransportError <;> simp at hnone
  · simp only [if_neg hhas] at h ⊢
    exact ⟨h, List.Subset.refl _, fun hfalse => absurd hfalse hhas⟩

/-- **A walk that ends unhandled** carries no transport error, has invoked every local entry, and
every remote entry of a registered transport has answered "no handler".

**Proof sketch.** Induction on the entries left.  A local entry that leaves the request unhandled
has walked the rest of the chain (`executeLocalEntry_unhandled`), and so has a remote entry
(`executeRemoteEntry_unhandled`). -/
theorem stepDispatch_unhandled {rest : List (MergedEntry H)} :
    ∀ {index : ℕ} {payload : V} {firstTransportError : Option BusError},
      (stepDispatch net node send definition merged options rest index payload
        firstTransportError).ending = .value none →
      firstTransportError = none ∧
      (∀ entry, MergedEntry.localEntry entry ∈ rest → ∃ payload', .invoke node entry payload' ∈
        (stepDispatch net node send definition merged options rest index payload
          firstTransportError).trace) ∧
      ∀ i route, rest[i]? = some (.remoteEntry route) →
        (net.context node).transports.has route.transport = true →
        ∃ payload' error,
          let run := send route.transport (requestMessage definition payload'
            (resolveRemoteCursor merged (index + i + 1) route.priority options.priority))
          run.trace ⊆ (stepDispatch net node send definition merged options rest index payload
            firstTransportError).trace ∧ run.ending = .error error ∧
          error.isNoHandlerErrorForSubject (getFullSubjectForSubjectDefinition definition) =
            true := by
  induction rest with
  | nil =>
    intro index payload firstTransportError h
    cases firstTransportError with
    | none => exact ⟨rfl, fun entry hentry => absurd hentry (by simp), fun i route hi =>
        absurd hi (by simp)⟩
    | some error => exact absurd h (by simp [stepDispatch])
  | cons head rest ih =>
    intro index payload firstTransportError h
    cases head with
    | localEntry entry =>
      rw [stepDispatch] at h ⊢
      obtain ⟨payload', hend, hsub⟩ := executeLocalEntry_unhandled h
      obtain ⟨herror, hlocal, hremote⟩ := ih hend
      refine ⟨herror, fun entry' hentry' => ?_, fun i route hi hhas => ?_⟩
      · rcases List.mem_cons.mp hentry' with heq | hentry'
        · injection heq with heq
          exact ⟨payload, by simp [heq]⟩
        · obtain ⟨payload'', hinvoke⟩ := hlocal entry' hentry'
          exact ⟨payload'', List.mem_cons_of_mem _ (hsub hinvoke)⟩
      · cases i with
        | zero => cases hi
        | succ i =>
          obtain ⟨payload'', error, htrace, hanswer⟩ := hremote i route hi hhas
          rw [show index + (i + 1) + 1 = index + 1 + i + 1 by omega]
          exact ⟨payload'', error, List.Subset.trans htrace (List.Subset.trans hsub
            (List.subset_cons_self _ _)), hanswer⟩
    | remoteEntry entry =>
      obtain ⟨hend, hsub, hanswer⟩ := executeRemoteEntry_unhandled (fun _ hskip => (ih hskip).1) h
      obtain ⟨herror, hlocal, hremote⟩ := ih hend
      refine ⟨herror, fun entry' hentry' => ?_, fun i route hi hhas => ?_⟩
      · rcases List.mem_cons.mp hentry' with heq | hentry'
        · cases heq
        · obtain ⟨payload', hinvoke⟩ := hlocal entry' hentry'
          exact ⟨payload', hsub hinvoke⟩
      · cases i with
        | zero =>
          obtain rfl : entry = route := by simpa using hi
          obtain ⟨htrace, error, hrun, hno⟩ := hanswer hhas
          exact ⟨payload, error, htrace, hrun, hno⟩
        | succ i =>
          obtain ⟨payload', error, htrace, hanswer'⟩ := hremote i route hi hhas
          rw [show index + (i + 1) + 1 = index + 1 + i + 1 by omega]
          exact ⟨payload', error, List.Subset.trans htrace hsub, hanswer'⟩

/-- **A dispatch that ends unhandled ran every local handler below its cursor.** -/
theorem dispatch_unhandled_local {payload : V}
    (h : (dispatch net node send definition payload options).ending = .value none)
    {entry : HandlerEntry H}
    (hentry : entry ∈ getMatchingHandlerEntries (net.context node).requestHandlers
      (getFullSubjectForSubjectDefinition definition))
    (hbelow : BelowCursor options.priority entry.priority) :
    ∃ payload', .invoke node entry payload' ∈
      (dispatch net node send definition payload options).trace := by
  have hlist : .localEntry entry ∈ dispatchList (net.context node) definition options :=
    localEntry_mem_dispatchList.mpr hentry
  obtain ⟨start, -, hmem, heq⟩ := dispatch_eq_stepDispatch net node send hlist hbelow payload
  rw [heq] at h ⊢
  exact (stepDispatch_unhandled h).2.1 entry hmem

end Walk

/-! ### Answers of a peer -/

section Answers

variable {N H V : Type} [ObjectSpread V] {net : Network N H V} {node : N}
  {send : String → BusRequestMessage V → NetworkRun N H V V} {definition : SubjectDefinition}
  {merged : List (MergedEntry H)} {options : DispatchOptions}

/-- The subject within a namespace is never the full subject key. -/
lemma subject_ne_fullSubject (definition : SubjectDefinition) :
    definition.subject ≠ getFullSubjectForSubjectDefinition definition := by
  intro h
  have hlen := congrArg String.length h
  simp only [getFullSubjectForSubjectDefinition, String.length_append] at hlen
  have hdot : ".".length = 1 := rfl
  omega

/-- An error that does not answer "no handler" once it has crossed a transport. -/
def Foreign (fullSubject : Key) (error : BusError) : Prop :=
  error.overTransport.isNoHandlerErrorForSubject fullSubject = false

variable {error : BusError}

/-- An error that left a local handler stays foreign: it is reported under the short subject. -/
lemma Foreign.wrap (h : Foreign (getFullSubjectForSubjectDefinition definition) error) :
    Foreign (getFullSubjectForSubjectDefinition definition) (error.wrap definition.subject) := by
  have hne := subject_ne_fullSubject definition
  cases error with
  | request subject cause => exact h
  | _ => simp [Foreign, BusError.wrap, BusError.overTransport,
      BusError.isNoHandlerErrorForSubject, BusError.code?, BusError.subject?, hne]

/-- **The rejections of a walk**, if handlers finish: a property of the transport errors that are
carried, kept when an error leaves a local handler, holds of the error a walk is rejected with.

**Proof sketch.** Induction on the entries left, for every carried error.  A local entry passes on a
rejection of the rest of the chain; a remote entry carries on its error unless that answers "no
handler". -/
lemma stepDispatch_error (P : BusError → Prop)
    (hwrap : ∀ error, P error → P (error.wrap definition.subject))
    (hprogram : ∀ h v, (net.program h v).Finishes)
    (hsend : ∀ transport payload cursor error,
      (net.context node).transports.has transport = true →
      (send transport (requestMessage definition payload cursor)).ending = .error error →
      error.isNoHandlerErrorForSubject (getFullSubjectForSubjectDefinition definition) = false →
      P error)
    {rest : List (MergedEntry H)} :
    ∀ {index : ℕ} {payload : V} {firstTransportError : Option BusError} {error : BusError},
      (∀ e ∈ firstTransportError, P e) →
      (stepDispatch net node send definition merged options rest index payload
        firstTransportError).ending = .error error → P error := by
  induction rest with
  | nil =>
    intro index payload firstTransportError error hfirst h
    cases firstTransportError with
    | none => exact absurd h (by simp [stepDispatch])
    | some e =>
      obtain rfl : e = error := by simpa [stepDispatch] using h
      exact hfirst e rfl
  | cons head rest ih =>
    intro index payload firstTransportError error hfirst h
    cases head with
    | localEntry entry =>
      obtain ⟨payload', error', hdown, rfl⟩ := executeLocalEntry_error (hprogram _ _) h
      exact hwrap _ (ih hfirst hdown)
    | remoteEntry entry =>
      rw [stepDispatch, executeRemoteEntry] at h
      by_cases hhas : (net.context node).transports.has entry.transport = true
      · simp only [if_pos hhas] at h
        obtain ⟨answer, hend, hrest, -⟩ := Traced.exists_of_settle_eq (r := .error error) h
        cases answer with
        | ok result => cases hrest
        | error answer =>
          by_cases hno : answer.isNoHandlerErrorForSubject
              (getFullSubjectForSubjectDefinition definition) = true
          · simp only [if_pos hno] at hrest
            exact ih hfirst hrest
          · simp only [if_neg hno] at hrest
            refine ih (fun e he => ?_) hrest
            cases firstTransportError with
            | some e' => exact hfirst e he
            | none =>
              obtain rfl : answer = e := by simpa using he
              exact hsend _ _ _ _ hhas hend (by simpa using hno)
      · simp only [if_neg hhas] at h
        exact ih hfirst h

/-- The same for a whole dispatch. -/
lemma dispatch_error (P : BusError → Prop) (hwrap : ∀ error, P error → P (error.wrap definition.subject))
    (hprogram : ∀ h v, (net.program h v).Finishes) (hsend : ∀ transport payload cursor error,
      (net.context node).transports.has transport = true →
      (send transport (requestMessage definition payload cursor)).ending = .error error →
      error.isNoHandlerErrorForSubject (getFullSubjectForSubjectDefinition definition) = false →
      P error) {payload : V} (h : (dispatch net node send definition payload options).ending = .error error) :
    P error := by
  unfold dispatch at h
  dsimp only at h
  split at h
  · cases h
  · split_ifs at h
    · cases h
    · exact stepDispatch_error P hwrap hprogram hsend (by simp) h

/-- What a peer rejects a message with: the locality of the subject, a rejection of its dispatch,
or "no handler" after a dispatch that ended unhandled. -/
lemma handleRequestMessage_error {message : BusRequestMessage V}
    (h : (handleRequestMessage net node send message).ending = .error error) :
    let fullSubject := getFullSubjectForSubjectDefinition (resolveSubjectDefinition message true)
    error = BusError.overTransport (.localSubject fullSubject) ∨
      (handleRequestMessage net node send message).trace =
          (inboundDispatch net node send message).trace ∧
        ((∃ error', (inboundDispatch net node send message).ending = .error error' ∧
            error = error'.overTransport) ∨
          (inboundDispatch net node send message).ending = .value none ∧
            error = BusError.overTransport (.noHandler fullSubject)) := by
  unfold handleRequestMessage at h ⊢
  dsimp only at h ⊢
  split_ifs at h ⊢ with hlocal
  · exact Or.inl (Ending.error.inj h).symm
  · right
    obtain ⟨outcome, hend, hrest, htrace⟩ := Traced.exists_of_settle_eq (r := .error error) h
    rw [htrace]
    cases outcome with
    | error error' =>
      exact ⟨by simp, Or.inl ⟨error', hend, (Ending.error.inj hrest).symm⟩⟩
    | ok outcome =>
      cases outcome with
      | some value => cases hrest
      | none => exact ⟨by simp, Or.inr ⟨hend, (Ending.error.inj hrest).symm⟩⟩

variable [DecidableEq N]

/-- The errors of a hop have crossed a transport or are the transport's own: those that do not answer
"no handler" are foreign. -/
lemma foreign_of_hop {depth : ℕ} {transport : String} {message : BusRequestMessage V} {fullSubject : Key}
    (h : (hop net depth node transport message).ending = .error error)
    (hno : error.isNoHandlerErrorForSubject fullSubject = false) : Foreign fullSubject error := by
  cases hpeer : net.peer node transport with
  | none =>
    rw [hop, hpeer] at h
    cases h
    simp [Foreign, BusError.overTransport, BusError.isNoHandlerErrorForSubject, BusError.code?,
      BusError.noHandlerCode, BusError.connectionLostCode]
  | some peer =>
    rw [hop_of_answered net hpeer (by simp [h]), Traced.ending_event] at h
    cases depth with
    | zero => cases h
    | succ depth =>
      rw [deliver_succ] at h
      -- crossing a second transport changes neither code nor subject
      rcases handleRequestMessage_error h with rfl | ⟨-, ⟨error', -, rfl⟩ | ⟨-, rfl⟩⟩
      · exact hno
      · exact hno
      · exact hno

/-- **A "no handler" answer comes from a dispatch at the peer that ended unhandled**, if handlers
finish. -/
theorem deliver_noHandler (hprogram : ∀ h v, (net.program h v).Finishes) {depth : ℕ} {payload : V}
    {cursor : Option ℤ}
    (h : (deliver net depth node (requestMessage definition payload cursor)).ending = .error error)
    (hno : error.isNoHandlerErrorForSubject (getFullSubjectForSubjectDefinition definition) = true) :
    ∃ depth', let message := requestMessage definition payload cursor
      (inboundDispatch net node (hop net depth' node) message).ending = .value none ∧
      (deliver net depth node message).trace =
        (inboundDispatch net node (hop net depth' node) message).trace := by
  cases depth with
  | zero => cases h
  | succ depth =>
    rcases handleRequestMessage_error h with rfl | ⟨htrace, ⟨error', herror, rfl⟩ | ⟨hend, -⟩⟩
    · exact absurd hno (by simp [BusError.overTransport, BusError.isNoHandlerErrorForSubject,
        BusError.code?])
    · have hforeign : Foreign (getFullSubjectForSubjectDefinition definition) error' := by
        refine dispatch_error (Foreign (getFullSubjectForSubjectDefinition definition)) ?_ hprogram
          ?_ herror
        · exact fun error herror => Foreign.wrap herror
        · exact fun _ _ _ _ _ hend hno => foreign_of_hop hend hno
      rw [Foreign, hno] at hforeign
      cases hforeign
    · exact ⟨depth, hend, htrace⟩

/-- Every handler finishes without setting a result, every transport has a peer, and the subject is
local nowhere: no hop fails. -/
structure FailureFree (net : Network N H V) (definition : SubjectDefinition) : Prop where
  silent : Silent net
  connected : ∀ node transport, (net.context node).transports.has transport = true →
    ∃ peer, net.peer node transport = some peer
  notLocal : ∀ node, (net.context node).namespaceRegistry.isLocalSubject
    (getFullSubjectForSubjectDefinition definition) = false

/-- Where no hop fails, every rejection of a message answers "no handler". -/
lemma FailureFree.deliver_error (hnet : FailureFree net definition) {depth : ℕ} :
    ∀ {node : N} {payload : V} {cursor : Option ℤ} {error : BusError},
      (deliver net depth node (requestMessage definition payload cursor)).ending = .error error →
      error.isNoHandlerErrorForSubject (getFullSubjectForSubjectDefinition definition) = true := by
  induction depth with
  | zero => intro node payload cursor error h; cases h
  | succ depth ih =>
    intro node payload cursor error h
    rw [deliver_succ, handleRequestMessage] at h
    split_ifs at h with hlocal
    · exact absurd hlocal (by rw [Bool.not_eq_true]; exact hnet.notLocal node)
    · obtain ⟨outcome, hend, hrest, -⟩ := Traced.exists_of_settle_eq (r := .error error) h
      cases outcome with
      | ok outcome =>
        cases outcome with
        | some value => cases hrest
        | none =>
          cases hrest
          exact BusError.isNoHandlerErrorForSubject_overTransport _
      | error error' =>
        refine absurd hend (fun herror => ?_)
        refine dispatch_error (fun _ => False) (fun _ h => h) (fun h v => (hnet.silent h v).finishes)
          (fun transport payload' cursor' error'' hhas hhop hno => ?_) herror
        obtain ⟨peer, hpeer⟩ := hnet.connected node transport hhas
        rw [hop_of_answered net hpeer (by simp [hhop]), Traced.ending_event] at hhop
        have hyes := ih hhop
        rw [show error''.isNoHandlerErrorForSubject
          (getFullSubjectForSubjectDefinition definition) = false from hno] at hyes
        cases hyes

/-- Where no hop fails, a dispatch is not rejected. -/
lemma FailureFree.dispatch_ne_error (hnet : FailureFree net definition) {depth : ℕ} {payload : V} :
    (dispatch net node (hop net depth node) definition payload options).ending ≠ .error error := by
  intro h
  refine dispatch_error (fun _ => False) (fun _ h => h) (fun h v => (hnet.silent h v).finishes)
    (fun transport payload' cursor' error' hhas hhop hno => ?_) h
  obtain ⟨peer, hpeer⟩ := hnet.connected node transport hhas
  rw [hop_of_answered net hpeer (by simp [hhop]), Traced.ending_event] at hhop
  rw [hnet.deliver_error hhop] at hno
  cases hno

end Answers

/-! ### Coverage -/

section Coverage

variable {N H V : Type} [ObjectSpread V] [DecidableEq N] {net : Network N H V} {node peer : N}
  {definition : SubjectDefinition} {options : DispatchOptions} {transport : String}

/-- The remote entry at an index is the first of its transport from the start of the walk on. -/
def FirstRoute (merged : List (MergedEntry H)) (start i : ℕ) (route : RemoteRoute) : Prop :=
  start ≤ i ∧ merged[i]? = some (.remoteEntry route) ∧
    ∀ j route', start ≤ j → j < i → merged[j]? = some (.remoteEntry route') →
      route'.transport ≠ route.transport

/-- What the cursors sent are to reach: the first one of a transport is above every priority of the
peer below the incoming cursor, and every one is at least the priority of its entry and at most one
above the priority of the entry before it. -/
structure CursorsCover (merged : List (MergedEntry H)) (peerPriorities : String → List ℤ)
    (cursor : Option ℤ) : Prop where
  first : ∀ start i route, resolveStartIndex merged cursor = some start →
    FirstRoute merged start i route → ∀ p ∈ peerPriorities route.transport, BelowCursor cursor p →
      BelowCursor (resolveRemoteCursor merged (i + 1) route.priority cursor) p
  own : ∀ start i route, resolveStartIndex merged cursor = some start → start ≤ i →
    merged[i]? = some (.remoteEntry route) →
    ∀ c ∈ resolveRemoteCursor merged (i + 1) route.priority cursor, route.priority ≤ c
  bounded : ∀ start i route previous, resolveStartIndex merged cursor = some start → start ≤ i →
    merged[i]? = some (.remoteEntry route) → 0 < i → merged[i - 1]? = some previous →
    ∃ c, resolveRemoteCursor merged (i + 1) route.priority cursor = some c ∧
      c ≤ previous.priority + 1

/-- One can be added where a tie asks for it: it is not lost for the first remote entry of a
transport, and for no remote entry two are added. -/
structure TiesExact (merged : List (MergedEntry H)) (cursor : Option ℤ) : Prop where
  kept : ∀ start i route, resolveStartIndex merged cursor = some start →
    FirstRoute merged start i route → Tied merged i route.priority →
    route.priority < addOne route.priority
  single : ∀ start i route, resolveStartIndex merged cursor = some start → start ≤ i →
    merged[i]? = some (.remoteEntry route) → Tied merged i route.priority →
    addOne route.priority ≤ route.priority + 1

/-- The first remote entry of a transport from the start of the walk on. -/
lemma exists_first_remoteEntry {merged : List (MergedEntry H)} {start : ℕ} {route : RemoteRoute}
    (hroute : .remoteEntry route ∈ merged.drop start) :
    ∃ i first, FirstRoute merged start i first ∧ first.transport = route.transport := by
  classical
  have hex : ∃ i, start ≤ i ∧ ∃ first, merged[i]? = some (MergedEntry.remoteEntry first) ∧
      first.transport = route.transport := by
    obtain ⟨k, hk⟩ := List.mem_iff_getElem?.mp hroute
    rw [List.getElem?_drop] at hk
    exact ⟨start + k, by omega, route, hk, rfl⟩
  obtain ⟨hle, first, hfirst, htransport⟩ := Nat.find_spec hex
  refine ⟨Nat.find hex, first, ⟨hle, hfirst, fun j route' hj hlt hroute' heq => ?_⟩, htransport⟩
  exact Nat.find_min hex hlt ⟨hj, route', hroute', heq.trans htransport⟩

/-- The first cursor of a transport is above every entry of the transport below the incoming cursor,
if one can be added where it is tied. -/
lemma FirstRoute.belowCursor {merged : List (MergedEntry H)} {cursor : Option ℤ}
    (hsorted : Descending MergedEntry.priority merged) {start i : ℕ}
    (hstart : resolveStartIndex merged cursor = some start) {route route' : RemoteRoute}
    (hfirst : FirstRoute merged start i route)
    (hkept : Tied merged i route.priority → route.priority < addOne route.priority)
    (hmem : .remoteEntry route' ∈ merged) (htransport : route'.transport = route.transport)
    (hbelow : BelowCursor cursor route'.priority) :
    BelowCursor (resolveRemoteCursor merged (i + 1) route.priority cursor) route'.priority := by
  obtain ⟨hle, hi, hmin⟩ := hfirst
  have hown := (belowCursor_resolveRemoteCursor_iff hsorted hi
    ((start_le_iff hsorted hstart hi).mp hle)).mpr hkept
  exact belowCursor_resolveRemoteCursor_of_first hsorted hstart hi hmin hown hmem htransport hbelow

/-- **The cursors reach what they are to reach exactly if one can be added where a tie asks for
it**, in a merged list whose remote entries are the priorities of the peers. -/
theorem cursorsCover_iff {localEntries : List (HandlerEntry H)} {remoteEntries : List RemoteRoute}
    {peerPriorities : String → List ℤ} (cursor : Option ℤ)
    (hlist : ∀ transport p, p ∈ peerPriorities transport ↔
      (⟨transport, p⟩ : RemoteRoute) ∈ remoteEntries) :
    CursorsCover (buildMergedList localEntries remoteEntries) peerPriorities cursor ↔
      TiesExact (buildMergedList localEntries remoteEntries) cursor := by
  have hsorted := descending_buildMergedList localEntries remoteEntries
  have hroute : ∀ i (route : RemoteRoute), (buildMergedList localEntries remoteEntries)[i]? =
      some (MergedEntry.remoteEntry route) → route.priority ∈ peerPriorities route.transport :=
    fun i route hi => (hlist _ _).mpr
      (remoteEntry_mem_buildMergedList.mp (List.mem_of_getElem? hi))
  constructor
  · intro hcover
    refine ⟨fun start i route hstart hfirst => ?_, fun start i route hstart hle hi htied => ?_⟩
    · have hbelow := (start_le_iff hsorted hstart hfirst.2.1).mp hfirst.1
      exact (belowCursor_resolveRemoteCursor_iff hsorted hfirst.2.1 hbelow).mp
        (hcover.first start i route hstart hfirst _ (hroute i route hfirst.2.1) hbelow)
    · obtain ⟨previous, hpos, hprevious, hpriority⟩ := htied
      obtain ⟨k, rfl⟩ : ∃ k, i = k + 1 := ⟨i - 1, by omega⟩
      obtain ⟨c, hc, -, hbound⟩ := resolveRemoteCursor_bounds cursor hsorted hi hprevious
      obtain ⟨c', hc', hle'⟩ := hcover.bounded start _ route previous hstart hle hi hpos hprevious
      obtain rfl : c = c' := Option.some.inj (hc.symm.trans hc')
      exact hbound.mp hle' hpriority
  · intro hexact
    refine ⟨fun start i route hstart hfirst p hp hbelow => ?_, fun start i route hstart hle hi c hc => ?_,
      fun start i route previous hstart hle hi hpos hprevious => ?_⟩
    · exact hfirst.belowCursor hsorted hstart (hexact.kept start i route hstart hfirst)
        (remoteEntry_mem_buildMergedList.mpr ((hlist _ _).mp hp)) rfl hbelow
    · cases i with
      | zero => exact le_of_lt ((start_le_iff hsorted hstart hi).mp hle c hc)
      | succ i =>
        obtain ⟨hlt, -⟩ := List.getElem?_eq_some_iff.mp hi
        obtain ⟨c', hc', hown, -⟩ := resolveRemoteCursor_bounds cursor hsorted hi
          (List.getElem?_eq_getElem (by omega : i < _))
        obtain rfl : c' = c := Option.some.inj (hc'.symm.trans hc)
        exact hown
    · obtain ⟨k, rfl⟩ : ∃ k, i = k + 1 := ⟨i - 1, by omega⟩
      obtain ⟨c, hc, -, hbound⟩ := resolveRemoteCursor_bounds cursor hsorted hi hprevious
      exact ⟨c, hc, hbound.mpr fun htie => hexact.single start _ route hstart hle hi
        ⟨previous, hpos, hprevious, htie⟩⟩

/-- **A dispatch that ends unhandled ran every handler of a peer below its cursor**, if every
priority of the peer is among its routes and one can be added where a tie asks for it.

**Proof sketch.** The first route of the peer's transport from the start of the walk on is sent a
cursor above the handler (`FirstRoute.belowCursor`).  It was answered "no handler", so the dispatch at
the peer ended unhandled too, and that ran the handler. -/
theorem dispatch_unhandled_peer (hprogram : ∀ h v, (net.program h v).Finishes)
    (htransport : (net.context node).transports.has transport = true)
    (hpeer : net.peer node transport = some peer)
    (hexact : TiesExact (dispatchList (net.context node) definition options) options.priority)
    {depth : ℕ} {payload : V}
    (h : (dispatch net node (hop net depth node) definition payload options).ending = .value none)
    {entry : HandlerEntry H}
    (hentry : entry ∈ getMatchingHandlerEntries (net.context peer).requestHandlers
      (getFullSubjectForSubjectDefinition definition))
    (hroute : .remoteEntry ⟨transport, entry.priority⟩ ∈
      dispatchList (net.context node) definition options)
    (hbelow : BelowCursor options.priority entry.priority) :
    ∃ payload', .invoke peer entry payload' ∈
      (dispatch net node (hop net depth node) definition payload options).trace := by
  obtain ⟨start, hstart, hmem, heq⟩ := dispatch_eq_stepDispatch net node (hop net depth node)
    hroute hbelow payload
  rw [heq] at h ⊢
  obtain ⟨i, first, hfirst, hname⟩ := exists_first_remoteEntry hmem
  have hsent := hfirst.belowCursor (descending_dispatchList _ _ _) hstart
    (hexact.kept start i first hstart hfirst) hroute hname.symm hbelow
  obtain ⟨hle, hi, -⟩ := hfirst
  have hdrop : ((dispatchList (net.context node) definition options).drop start)[i - start]? =
      some (.remoteEntry first) := by
    rw [List.getElem?_drop, Nat.add_sub_cancel' hle]
    exact hi
  obtain ⟨payload', error, htrace, hend, hno⟩ := (stepDispatch_unhandled h).2.2 _ first hdrop
    (by rw [hname]; exact htransport)
  rw [Nat.add_sub_cancel' hle] at htrace hend
  rw [hop_of_answered net (by rw [hname]; exact hpeer) (by simp [hend])] at htrace hend
  obtain ⟨depth', hinbound, htrace'⟩ := deliver_noHandler hprogram hend hno
  obtain ⟨payload'', hinvoke⟩ := dispatch_unhandled_local hinbound hentry hsent
  refine ⟨payload'', htrace (List.mem_cons_of_mem _ ?_)⟩
  rw [htrace']
  exact hinvoke

/-- Where no hop fails, a dispatch that ends gives up. -/
lemma FailureFree.dispatch_ending (hnet : FailureFree net definition) (depth : ℕ) (payload : V) :
    (dispatch net node (hop net depth node) definition payload options).ending = .cutOff ∨
      (dispatch net node (hop net depth node) definition payload options).ending = .value none := by
  by_cases hcut : (dispatch net node (hop net depth node) definition payload options).ending = .cutOff
  · exact Or.inl hcut
  · right
    have hanswered := (dispatch_extends_answered net depth node definition payload
      options).eq_of_ne_cutOff hcut
    rcases (dispatch_cutOff_iff hnet.silent definition depth node options payload).2 with
      h | hvalue | ⟨error, herror⟩
    · exact absurd (hanswered ▸ h) hcut
    · rw [hanswered, hvalue]
    · exact absurd (hanswered ▸ herror) hnet.dispatch_ne_error

/-- **When no handler is skipped by the cursor.**

For every merged list whose remote entries are the priorities of the peers, and every incoming
cursor: the first remote entry of a transport from the start index on is sent a cursor above every
handler of that peer below the incoming cursor, and every cursor sent is at least the priority of its
entry and at most one above the priority of the entry before it, exactly if one can be added where a
tie asks for it.

Hence, in every network whose handlers finish, a dispatch that gives up has run every handler of
its bus and of every connected bus below the incoming cursor; and where no handler sets a result
and no hop fails, a dispatch that ends gives up. -/
theorem dispatch_skips_no_handler :
    (∀ (localEntries : List (HandlerEntry H)) (remoteEntries : List RemoteRoute)
        (peerPriorities : String → List ℤ) (cursor : Option ℤ),
      (∀ transport p, p ∈ peerPriorities transport ↔
        (⟨transport, p⟩ : RemoteRoute) ∈ remoteEntries) →
      (CursorsCover (buildMergedList localEntries remoteEntries) peerPriorities cursor ↔
        TiesExact (buildMergedList localEntries remoteEntries) cursor)) ∧
    ∀ (net : Network N H V) (node : N) (definition : SubjectDefinition)
        (options : DispatchOptions) (depth : ℕ) (payload : V),
      (∀ transport peer, (net.context node).transports.has transport = true →
        net.peer node transport = some peer →
        ∀ entry ∈ getMatchingHandlerEntries (net.context peer).requestHandlers
            (getFullSubjectForSubjectDefinition definition),
          .remoteEntry ⟨transport, entry.priority⟩ ∈
            dispatchList (net.context node) definition options) →
      TiesExact (dispatchList (net.context node) definition options) options.priority →
      let run := dispatch net node (hop net depth node) definition payload options
      ((∀ h v, (net.program h v).Finishes) → run.ending = .value none →
        (∀ entry ∈ getMatchingHandlerEntries (net.context node).requestHandlers
            (getFullSubjectForSubjectDefinition definition),
          BelowCursor options.priority entry.priority →
          ∃ payload', .invoke node entry payload' ∈ run.trace) ∧
        ∀ transport peer, (net.context node).transports.has transport = true →
          net.peer node transport = some peer →
          ∀ entry ∈ getMatchingHandlerEntries (net.context peer).requestHandlers
              (getFullSubjectForSubjectDefinition definition),
            BelowCursor options.priority entry.priority →
            ∃ payload', .invoke peer entry payload' ∈ run.trace) ∧
      (FailureFree net definition → run.ending = .cutOff ∨ run.ending = .value none) := by
  refine ⟨fun _ _ _ cursor hlist => cursorsCover_iff cursor hlist, ?_⟩
  intro net node definition options depth payload hroutes hexact run
  refine ⟨fun hprogram hend => ⟨fun entry hentry hbelow => ?_,
    fun transport peer hhas hpeer entry hentry hbelow => ?_⟩,
    fun hnet => hnet.dispatch_ending depth payload⟩
  · exact dispatch_unhandled_local hend hentry hbelow
  · exact dispatch_unhandled_peer hprogram hhas hpeer hexact hend hentry
      (hroutes transport peer hhas hpeer entry hentry) hbelow

/-- A handler at priority 5 here and one at priority 3 at the peer: no entry is tied, the route is sent
cursor 5, and a request that gives up has run the peer's handler. -/
theorem dispatch_skips_no_handler_pair :
    CursorsCover (buildMergedList [(⟨(false, 0), 5⟩ : HandlerEntry (Bool × ℕ))] [⟨"t", 3⟩])
      (fun transport => if transport = "t" then [3] else []) none ∧
    ∃ payload', BusEvent.invoke true ⟨(true, 0), 3⟩ payload' ∈
      (dispatch (pairNetwork [5] [3] fun _ => .done) false
        (hop (pairNetwork [5] [3] fun _ => .done) 1 false) pairSubject ()
        (requestOptions (pairContext false [5] [3]) pairSubject none)).trace := by
  obtain ⟨hcursor, hcoverage⟩ := dispatch_skips_no_handler (N := Bool) (H := Bool × ℕ) (V := Unit)
  have hsmall : ∀ (i : ℕ) (route : RemoteRoute), ([.localEntry ⟨(false, 0), 5⟩, .remoteEntry ⟨"t", 3⟩] :
      List (MergedEntry (Bool × ℕ)))[i]? = some (MergedEntry.remoteEntry route) → addOne route.priority = 4 ∧
        route.priority = 3 := by
    intro i route hi
    rcases i with _ | _ | i
    · cases hi
    · obtain rfl : (⟨"t", 3⟩ : RemoteRoute) = route := by simpa using hi
      exact ⟨by decide, rfl⟩
    · cases hi
  have hexact : ∀ cursor, TiesExact ([.localEntry ⟨(false, 0), 5⟩, .remoteEntry ⟨"t", 3⟩] :
      List (MergedEntry (Bool × ℕ))) cursor := fun cursor =>
    ⟨fun start i route _ hfirst _ => by have := hsmall i route hfirst.2.1; omega,
      fun start i route _ _ hi _ => by have := hsmall i route hi; omega⟩
  refine ⟨(hcursor _ _ _ none fun transport p => ?_).mpr (hexact none), ?_⟩
  · by_cases h : transport = "t" <;> simp [h]
  · refine ((hcoverage (pairNetwork [5] [3] fun _ => .done) false pairSubject
      (requestOptions (pairContext false [5] [3]) pairSubject none) 1 () ?_ (hexact none)).1
      (fun _ _ => trivial) (by decide)).2 "t" true (by decide) (by decide) ⟨(true, 0), 3⟩ (by decide)
      (by decide)
    intro transport peer _ hpeer entry hentry
    obtain ⟨rfl, rfl⟩ : transport = "t" ∧ peer = true := by
      simpa [pairNetwork, and_comm, eq_comm] using hpeer
    have hall : getMatchingHandlerEntries ((pairNetwork [5] [3] fun _ => .done).context
        true).requestHandlers (getFullSubjectForSubjectDefinition pairSubject) =
        [⟨(true, 0), 3⟩] := by decide
    rw [hall, List.mem_singleton] at hentry
    subst hentry
    decide

/-- **A tie at `2 ^ 53`**: both buses have a silent handler there.  The route is sent `2 ^ 53` itself as the cursor, and
the request gives up without running the peer's handler. -/
theorem dispatch_skips_tied_handler :
    resolveRemoteCursor (buildMergedList [(⟨(false, 0), 2 ^ 53⟩ : HandlerEntry (Bool × ℕ))]
      [⟨"t", 2 ^ 53⟩]) 2 (2 ^ 53) none = some (2 ^ 53) ∧
    let run := dispatch (pairNetwork [2 ^ 53] [2 ^ 53] fun _ => .done) false
      (hop (pairNetwork [2 ^ 53] [2 ^ 53] fun _ => .done) 2 false) pairSubject ()
      (requestOptions (pairContext false [2 ^ 53] [2 ^ 53]) pairSubject none)
    run.ending = .value none ∧ ∀ entry payload, .invoke true entry payload ∉ run.trace := by
  refine ⟨by decide, by decide, fun entry payload hinvoke => ?_⟩
  have hnone : (dispatch (pairNetwork [2 ^ 53] [2 ^ 53] fun _ => .done) false
      (hop (pairNetwork [2 ^ 53] [2 ^ 53] fun _ => .done) 2 false) pairSubject ()
      (requestOptions (pairContext false [2 ^ 53] [2 ^ 53]) pairSubject none)).trace.all
        (fun | .invoke true _ _ => false | _ => true) = true := by decide
  exact absurd (List.all_eq_true.mp hnone _ hinvoke) (by simp)

end Coverage

end Makaio.Bus
