import Makaio.Bus.Dispatch

set_option autoImplicit false

/-!
# Dispatch in a silent network

When every handler finishes without setting a result, a dispatch has only two possible endings: it
gives up after walking its whole list, or it is cut off in one of the hops it makes.  Which of the
two happens does not depend on payloads, so that it can be read off the merged lists and the
cursors alone, as long as every answer arrives.

## Main definitions

* `Silent` — every handler of a network is silent.
* `Rejects`, `Hangs` — a hop that is rejected, and one that is cut off,
  whatever the payload.
* `inboundList` — the list a receiver walks.

## Main results

* `dispatch_silent` — a dispatch gives up if all its hops are rejected, and is cut off if
  one of them hangs.
* `dispatch_cutOff_iff`, `deliverAnswered_cutOff_iff` — when a dispatch and a message
  are cut off, by recursion on the bound.
-/

namespace Makaio.Bus

open Foundations

variable {cursor sent : Option ℤ} {transport : String}

section Node

variable {N H V : Type}

/-- A hop that is rejected, whatever the payload. -/
def Rejects (send : String → BusRequestMessage V → NetworkRun N H V V)
    (definition : SubjectDefinition) (transport : String) (cursor : Option ℤ) : Prop :=
  ∀ payload, ∃ error, (send transport (requestMessage definition payload cursor)).ending =
    .error error

/-- A hop that is cut off, whatever the payload. -/
def Hangs (send : String → BusRequestMessage V → NetworkRun N H V V)
    (definition : SubjectDefinition) (transport : String) (cursor : Option ℤ) : Prop :=
  ∀ payload, (send transport (requestMessage definition payload cursor)).ending = .cutOff

variable [ObjectSpread V] {net : Network N H V} {node : N}
  {send : String → BusRequestMessage V → NetworkRun N H V V} {definition : SubjectDefinition}
  {merged : List (MergedEntry H)} {options : DispatchOptions}

/-- The remote entries among `rest` with the cursors they are sent, for a walk at `index`. -/
def HopOf (net : Network N H V) (node : N) (merged : List (MergedEntry H))
    (cursor : Option ℤ) (rest : List (MergedEntry H)) (index : ℕ) (transport : String)
    (sent : Option ℤ) : Prop :=
  ∃ i route, rest[i]? = some (.remoteEntry route) ∧
    (net.context node).transports.has route.transport = true ∧ transport = route.transport ∧
    sent = resolveRemoteCursor merged (index + i + 1) route.priority cursor

variable {rest : List (MergedEntry H)}

omit [ObjectSpread V] in
/-- The hops of a longer walk: those of its rest, and its head if that is remote. -/
lemma hopOf_cons {head : MergedEntry H} {index : ℕ} :
    HopOf net node merged cursor (head :: rest) index transport sent ↔
      (∃ route, head = .remoteEntry route ∧
        (net.context node).transports.has route.transport = true ∧ transport = route.transport ∧
        sent = resolveRemoteCursor merged (index + 1) route.priority cursor) ∨
      HopOf net node merged cursor rest (index + 1) transport sent := by
  constructor
  · rintro ⟨i, route, hi, hhas, htransport, hsent⟩
    cases i with
    | zero => exact Or.inl ⟨route, by simpa using hi, hhas, htransport, hsent⟩
    | succ i =>
      exact Or.inr ⟨i, route, hi, hhas, htransport, by
        rw [hsent, show index + (i + 1) + 1 = index + 1 + i + 1 by omega]⟩
  · rintro (⟨route, rfl, hhas, htransport, hsent⟩ | ⟨i, route, hi, hhas, htransport, hsent⟩)
    · exact ⟨0, route, rfl, hhas, htransport, hsent⟩
    · exact ⟨i + 1, route, hi, hhas, htransport, by
        rw [hsent, show index + (i + 1) + 1 = index + 1 + i + 1 by omega]⟩

/-- Every handler finishes without setting a result. -/
def Silent (net : Network N H V) : Prop := ∀ h v, (net.program h v).Silent

/-- A walk whose hops are all rejected gives up. -/
lemma stepDispatch_of_rejects (hnet : Silent net) :
    ∀ {index : ℕ} {firstTransportError : Option BusError},
      (∀ transport sent, HopOf net node merged options.priority rest index transport sent →
        Rejects send definition transport sent) →
      ∀ payload, GivesUp (stepDispatch net node send definition merged options rest index payload
        firstTransportError) := by
  induction rest with
  | nil =>
    intro index firstTransportError _ payload
    cases firstTransportError with
    | none => exact Or.inl rfl
    | some error => exact Or.inr ⟨error, rfl⟩
  | cons head rest ih =>
    intro index firstTransportError hhops payload
    have hrest : ∀ error payload, GivesUp (stepDispatch net node send definition merged options rest
        (index + 1) payload error) := fun error => ih fun transport sent hhop =>
      hhops transport sent (hopOf_cons.mpr (Or.inr hhop))
    cases head with
    | localEntry entry =>
      exact executeLocalEntry_silent_of_givesUp (hnet _ _) (hrest firstTransportError) payload
    | remoteEntry entry =>
      rw [stepDispatch, executeRemoteEntry]
      by_cases hhas : (net.context node).transports.has entry.transport = true
      · obtain ⟨error, hend⟩ := hhops _ _ (hopOf_cons.mpr
          (Or.inl ⟨entry, rfl, hhas, rfl, rfl⟩)) payload
        simp only [if_pos hhas]
        rw [Traced.settle_of_settled (r := .error error) hend]
        dsimp only
        split_ifs
        · exact hrest _ payload
        · exact hrest _ payload
      · simp only [if_neg hhas]
        exact hrest _ payload

/-- A walk that has a hanging hop, and whose other hops hang or are rejected, is cut off. -/
lemma stepDispatch_of_hangs (hnet : Silent net) :
    ∀ {index : ℕ} {firstTransportError : Option BusError},
      (∀ transport sent, HopOf net node merged options.priority rest index transport sent →
        Rejects send definition transport sent ∨ Hangs send definition transport sent) →
      (∃ transport sent, HopOf net node merged options.priority rest index transport sent ∧
        Hangs send definition transport sent) →
      ∀ payload, (stepDispatch net node send definition merged options rest index payload
        firstTransportError).ending = .cutOff := by
  induction rest with
  | nil =>
    rintro index firstTransportError - ⟨transport, sent, ⟨i, route, hi, -⟩, -⟩
    cases hi
  | cons head rest ih =>
    rintro index firstTransportError hhops ⟨transport, sent, hhop, hhangs⟩ payload
    have hrest : HopOf net node merged options.priority rest (index + 1) transport sent →
        ∀ error payload, (stepDispatch net node send definition merged options rest (index + 1)
          payload error).ending = .cutOff :=
      fun hlater error => ih (fun transport sent hhop =>
        hhops transport sent (hopOf_cons.mpr (Or.inr hhop))) ⟨transport, sent, hlater, hhangs⟩
    cases head with
    | localEntry entry =>
      rcases hopOf_cons.mp hhop with ⟨route, hroute, -⟩ | hlater
      · cases hroute
      · exact executeLocalEntry_silent_of_cutOff (hnet _ _) (hrest hlater firstTransportError)
          payload
    | remoteEntry entry =>
      rw [stepDispatch, executeRemoteEntry]
      by_cases hhas : (net.context node).transports.has entry.transport = true
      · simp only [if_pos hhas]
        rcases hhops _ _ (hopOf_cons.mpr (Or.inl ⟨entry, rfl, hhas, rfl, rfl⟩)) with
          hrejects | hhead
        · obtain ⟨error, hend⟩ := hrejects payload
          rw [Traced.settle_of_settled (r := .error error) hend]
          dsimp only
          rcases hopOf_cons.mp hhop with ⟨route, hroute, -, rfl, rfl⟩ | hlater
          · -- the hanging hop is this one, which was rejected
            obtain rfl : entry = route := by simpa using hroute
            rw [hhangs payload] at hend
            cases hend
          · split_ifs
            · exact hrest hlater _ payload
            · exact hrest hlater _ payload
        · rw [Traced.settle_of_cutOff (hhead payload)]
      · simp only [if_neg hhas]
        rcases hopOf_cons.mp hhop with ⟨route, hroute, hhas', -⟩ | hlater
        · obtain rfl : entry = route := by simpa using hroute
          exact absurd hhas' hhas
        · exact hrest hlater _ payload

/-- The hops a dispatch makes below its cursor. -/
def DispatchHop (net : Network N H V) (node : N) (merged : List (MergedEntry H))
    (cursor : Option ℤ) (transport : String) (sent : Option ℤ) : Prop :=
  ∃ i route, merged[i]? = some (.remoteEntry route) ∧ BelowCursor cursor route.priority ∧
    (net.context node).transports.has route.transport = true ∧ transport = route.transport ∧
    sent = resolveRemoteCursor merged (i + 1) route.priority cursor

omit [ObjectSpread V] in
/-- The hops of the walk from the start index on are those below the cursor. -/
lemma hopOf_drop_iff (hsorted : Descending MergedEntry.priority merged) {start : ℕ}
    (hstart : resolveStartIndex merged cursor = some start) :
    HopOf net node merged cursor (merged.drop start) start transport sent ↔
      DispatchHop net node merged cursor transport sent := by
  constructor
  · rintro ⟨i, route, hi, hhas, htransport, hsent⟩
    rw [List.getElem?_drop] at hi
    exact ⟨start + i, route, hi, (start_le_iff hsorted hstart hi).mp (by omega), hhas, htransport,
      hsent⟩
  · rintro ⟨i, route, hi, hbelow, hhas, htransport, hsent⟩
    have hle : start ≤ i := (start_le_iff hsorted hstart hi).mpr hbelow
    refine ⟨i - start, route, ?_, hhas, htransport, ?_⟩
    · rw [List.getElem?_drop, Nat.add_sub_cancel' hle]
      exact hi
    · rw [Nat.add_sub_cancel' hle]
      exact hsent

/-- **A silent dispatch gives up** if all its hops are rejected, … -/
theorem dispatch_of_rejects (hnet : Silent net)
    (hhops : ∀ transport sent, DispatchHop net node
      (dispatchList (net.context node) definition options) options.priority transport sent →
      Rejects send definition transport sent) (payload : V) :
    GivesUp (dispatch net node send definition payload options) := by
  have hsorted := descending_dispatchList (net.context node) definition options
  unfold dispatch
  dsimp only
  cases hstart : resolveStartIndex (dispatchList (net.context node) definition options)
      options.priority with
  | none => exact Or.inl rfl
  | some start =>
    dsimp only
    split_ifs with hlen
    · exact Or.inl rfl
    · exact stepDispatch_of_rejects hnet (fun transport sent hhop => hhops transport sent
        ((hopOf_drop_iff hsorted hstart).mp hhop)) payload

/-- … and is cut off if one of them hangs while the others hang or are rejected. -/
theorem dispatch_of_hangs (hnet : Silent net)
    (hhops : ∀ transport sent, DispatchHop net node
      (dispatchList (net.context node) definition options) options.priority transport sent →
      Rejects send definition transport sent ∨ Hangs send definition transport sent)
    (hhang : ∃ transport sent, DispatchHop net node
      (dispatchList (net.context node) definition options) options.priority transport sent ∧
      Hangs send definition transport sent) (payload : V) :
    (dispatch net node send definition payload options).ending = .cutOff := by
  have hsorted := descending_dispatchList (net.context node) definition options
  obtain ⟨transport, sent, hhop, hhangs⟩ := hhang
  obtain ⟨i, route, hi, hbelow, -⟩ := id hhop
  obtain ⟨start, hstart, -, heq⟩ := dispatch_eq_stepDispatch net node send
    (List.mem_of_getElem? hi) hbelow payload
  rw [heq]
  exact stepDispatch_of_hangs hnet (fun transport sent hhop => hhops transport sent
    ((hopOf_drop_iff hsorted hstart).mp hhop))
    ⟨transport, sent, (hopOf_drop_iff hsorted hstart).mpr hhop, hhangs⟩ payload

end Node

/-! ### Messages in a silent network -/

section Net

variable {N H V : Type}

/-- The list the receiver of a request message walks; it rejects messages for local subjects. -/
def inboundList (context : BusContext H) (definition : SubjectDefinition) :
    List (MergedEntry H) :=
  let fullSubject := getFullSubjectForSubjectDefinition definition
  if context.namespaceRegistry.isLocalSubject fullSubject then []
  else buildMergedList (getMatchingHandlerEntries context.requestHandlers fullSubject)
    (if context.namespaceRegistry.isHostLocalRequestSubject fullSubject then []
      else getMatchingRemoteEntries context fullSubject true)

lemma descending_inboundList (context : BusContext H) (definition : SubjectDefinition) :
    Descending MergedEntry.priority (inboundList context definition) := by
  unfold inboundList
  dsimp only
  split_ifs
  · exact List.Pairwise.nil
  · exact descending_buildMergedList _ _
  · exact descending_buildMergedList _ _

lemma dispatchList_inboundOptions {context : BusContext H} {definition : SubjectDefinition}
    (hlocal : context.namespaceRegistry.isLocalSubject
      (getFullSubjectForSubjectDefinition definition) = false) (payload : V) (cursor : Option ℤ) :
    dispatchList context
      (resolveSubjectDefinition (requestMessage definition payload cursor) true)
      (inboundOptions context (requestMessage definition payload cursor)) =
    inboundList context definition := by
  unfold inboundList
  simp only [hlocal, Bool.false_eq_true, if_false]
  show buildMergedList _ (if (!false && !context.namespaceRegistry.isHostLocalRequestSubject
    (getFullSubjectForSubjectDefinition definition)) = true then getMatchingRemoteEntries context
      (getFullSubjectForSubjectDefinition definition) true else []) = _
  cases context.namespaceRegistry.isHostLocalRequestSubject
    (getFullSubjectForSubjectDefinition definition) <;> rfl

variable [ObjectSpread V] {net : Network N H V} {definition : SubjectDefinition}

/-- The receiver of a message rejects it if its dispatch gives up, and is cut off if that is. -/
lemma handleRequestMessage_of_inboundDispatch {node : N}
    {send : String → BusRequestMessage V → NetworkRun N H V V} {message : BusRequestMessage V} :
    (GivesUp (inboundDispatch net node send message) →
      ∃ error, (handleRequestMessage net node send message).ending = .error error) ∧
    ((inboundDispatch net node send message).ending = .cutOff →
      (net.context node).namespaceRegistry.isLocalSubject (getFullSubjectForSubjectDefinition
        (resolveSubjectDefinition message true)) = false →
      (handleRequestMessage net node send message).ending = .cutOff) := by
  unfold handleRequestMessage
  dsimp only
  split_ifs with hlocal
  · exact ⟨fun _ => ⟨_, rfl⟩, fun _ h => absurd hlocal (by rw [h]; simp)⟩
  · constructor
    · rintro (h | ⟨error, h⟩)
      · rw [Traced.settle_of_settled (r := .ok none) h]
        exact ⟨_, rfl⟩
      · rw [Traced.settle_of_settled (r := .error error) h]
        exact ⟨_, rfl⟩
    · intro h _
      rw [Traced.settle_of_cutOff h]

/-- A message for a subject that is local at its receiver is rejected. -/
lemma deliverAnswered_of_local {node : N}
    (hlocal : (net.context node).namespaceRegistry.isLocalSubject
      (getFullSubjectForSubjectDefinition definition) = true) (depth : ℕ) (payload : V)
    (cursor : Option ℤ) :
    (deliverAnswered net (depth + 1) node (requestMessage definition payload cursor)).ending =
      .error (BusError.overTransport (.localSubject
        (getFullSubjectForSubjectDefinition definition))) := by
  rw [deliverAnswered_succ, handleRequestMessage]
  exact congrArg Traced.ending (if_pos hlocal)

variable {depth : ℕ}

/-- A hop is rejected or hangs as the message at the peer does. -/
lemma hop_rejects_or_hangs (hdeliver : ∀ node cursor,
      (∀ payload, ∃ error, (deliverAnswered net depth node
        (requestMessage definition payload cursor)).ending = .error error) ∨
      ∀ payload, (deliverAnswered net depth node (requestMessage definition payload cursor)).ending =
        .cutOff) (node : N) (transport : String) (sent : Option ℤ) :
    Rejects (hopAnswered net depth node) definition transport sent ∨
      Hangs (hopAnswered net depth node) definition transport sent := by
  unfold Rejects Hangs
  cases hpeer : net.peer node transport with
  | none =>
    left
    intro payload
    exact ⟨.connectionLost transport, by rw [hopAnswered, hpeer]; rfl⟩
  | some peer =>
    simp only [hopAnswered_of_peer net hpeer, Traced.ending_event]
    exact hdeliver peer sent

/-- **In a silent network a message is rejected or cut off**, whatever its payload.

**Proof sketch.** Induction on the bound.  By the induction hypothesis every hop of the receiver is
rejected or hangs; its dispatch is cut off if one of them hangs and gives up otherwise. -/
theorem deliverAnswered_silent (hnet : Silent net) (definition : SubjectDefinition) (depth : ℕ) :
    ∀ node cursor,
      (∀ payload, ∃ error, (deliverAnswered net depth node
        (requestMessage definition payload cursor)).ending = .error error) ∨
      ∀ payload, (deliverAnswered net depth node (requestMessage definition payload cursor)).ending =
        .cutOff := by
  induction depth with
  | zero => exact fun node cursor => Or.inr fun payload => rfl
  | succ depth ih =>
    intro node cursor
    cases hlocal : (net.context node).namespaceRegistry.isLocalSubject
        (getFullSubjectForSubjectDefinition definition) with
    | true =>
      exact Or.inl fun payload => ⟨_, deliverAnswered_of_local hlocal depth payload cursor⟩
    | false =>
      have hhops := hop_rejects_or_hangs ih node
      by_cases hhang : ∃ transport sent, DispatchHop net node
          (inboundList (net.context node) definition) cursor transport sent ∧
          Hangs (hopAnswered net depth node) definition transport sent
      · right
        intro payload
        refine handleRequestMessage_of_inboundDispatch.2 (dispatch_of_hangs hnet ?_ ?_ payload)
          hlocal
        · exact fun transport sent _ => hhops transport sent
        · rw [dispatchList_inboundOptions hlocal]
          exact hhang
      · left
        intro payload
        refine handleRequestMessage_of_inboundDispatch.1 (dispatch_of_rejects hnet ?_ payload)
        rw [dispatchList_inboundOptions hlocal]
        intro transport sent hhop
        rcases hhops transport sent with h | h
        · exact h
        · exact absurd ⟨transport, sent, hhop, h⟩ hhang

/-- In a silent network a message that is cut off for one payload is cut off for all. -/
lemma deliverAnswered_cutOff_of_cutOff (hnet : Silent net) {node : N} {payload : V}
    (h : (deliverAnswered net depth node (requestMessage definition payload cursor)).ending = .cutOff) (payload' : V) :
    (deliverAnswered net depth node (requestMessage definition payload' cursor)).ending = .cutOff := by
  rcases deliverAnswered_silent hnet definition depth node cursor with hrejected | hcut
  · obtain ⟨error, herror⟩ := hrejected payload
    rw [herror] at h
    cases h
  · exact hcut payload'

/-- A hop hangs exactly if it leads to a peer whose message is cut off. -/
lemma hangs_hop_iff (hnet : Silent net) {node : N} (payload : V) :
    Hangs (hopAnswered net depth node) definition transport sent ↔
      ∃ peer, net.peer node transport = some peer ∧
        (deliverAnswered net depth peer (requestMessage definition payload sent)).ending = .cutOff := by
  unfold Hangs
  cases hpeer : net.peer node transport with
  | none =>
    have hne : ∀ payload, (hopAnswered net depth node transport
        (requestMessage definition payload sent)).ending ≠ .cutOff := by
      intro payload
      rw [hopAnswered, hpeer]
      simp
    exact ⟨fun h => absurd (h payload) (hne payload), by simp⟩
  | some peer =>
    simp only [hopAnswered_of_peer net hpeer, Traced.ending_event, Option.some.injEq, exists_eq_left']
    exact ⟨fun h => h payload, fun h => deliverAnswered_cutOff_of_cutOff hnet h⟩

/-- **A silent dispatch is cut off exactly if one of its hops is**, and gives up otherwise. -/
theorem dispatch_cutOff_iff (hnet : Silent net) (definition : SubjectDefinition) (depth : ℕ)
    (node : N) (options : DispatchOptions) (payload : V) :
    ((dispatch net node (hopAnswered net depth node) definition payload options).ending = .cutOff ↔
      ∃ transport sent peer, DispatchHop net node
          (dispatchList (net.context node) definition options) options.priority transport sent ∧
        net.peer node transport = some peer ∧
        (deliverAnswered net depth peer (requestMessage definition payload sent)).ending = .cutOff) ∧
    ((dispatch net node (hopAnswered net depth node) definition payload options).ending = .cutOff ∨
      GivesUp (dispatch net node (hopAnswered net depth node) definition payload options)) := by
  have hhops := hop_rejects_or_hangs (deliverAnswered_silent hnet definition depth) node
  by_cases hhang : ∃ transport sent, DispatchHop net node
      (dispatchList (net.context node) definition options) options.priority transport sent ∧
      Hangs (hopAnswered net depth node) definition transport sent
  · have hcut := dispatch_of_hangs hnet (fun transport sent _ => hhops transport sent) hhang payload
    refine ⟨⟨fun _ => ?_, fun _ => hcut⟩, Or.inl hcut⟩
    obtain ⟨transport, sent, hhop, hhangs⟩ := hhang
    obtain ⟨peer, hpeer, hdeliver⟩ := (hangs_hop_iff hnet payload).mp hhangs
    exact ⟨transport, sent, peer, hhop, hpeer, hdeliver⟩
  · have hgives := dispatch_of_rejects hnet (fun transport sent hhop =>
      (hhops transport sent).resolve_right fun h => hhang ⟨transport, sent, hhop, h⟩) payload
    refine ⟨⟨fun hcut => ?_, ?_⟩, Or.inr hgives⟩
    · rcases hgives with h | ⟨error, h⟩
      · rw [h] at hcut
        cases hcut
      · rw [h] at hcut
        cases hcut
    · rintro ⟨transport, sent, peer, hhop, hpeer, hcut⟩
      exact absurd ⟨transport, sent, hhop, (hangs_hop_iff hnet payload).mpr ⟨peer, hpeer, hcut⟩⟩
        hhang

/-- The same for the handling of a message. -/
theorem deliverAnswered_cutOff_iff (hnet : Silent net) {node : N} {payload : V} :
    (deliverAnswered net (depth + 1) node (requestMessage definition payload cursor)).ending = .cutOff ↔
      ∃ transport sent peer, DispatchHop net node (inboundList (net.context node) definition)
          cursor transport sent ∧
        net.peer node transport = some peer ∧
        (deliverAnswered net depth peer (requestMessage definition payload sent)).ending = .cutOff := by
  cases hlocal : (net.context node).namespaceRegistry.isLocalSubject
      (getFullSubjectForSubjectDefinition definition) with
  | true =>
    have hempty : inboundList (net.context node) definition = [] := by
      unfold inboundList
      exact if_pos hlocal
    constructor
    · intro h
      rw [deliverAnswered_of_local hlocal] at h
      cases h
    · rintro ⟨transport, sent, peer, ⟨i, route, hi, -⟩, -⟩
      rw [hempty] at hi
      cases hi
  | false =>
    have hdispatch := dispatch_cutOff_iff hnet
      (resolveSubjectDefinition (requestMessage definition payload cursor) true) depth node
      (inboundOptions (net.context node) (requestMessage definition payload cursor)) payload
    rw [dispatchList_inboundOptions hlocal] at hdispatch
    obtain ⟨hiff, hcases⟩ := hdispatch
    refine Iff.trans ⟨fun h => ?_, fun h =>
      handleRequestMessage_of_inboundDispatch.2 h hlocal⟩ hiff
    rcases hcases with hcut | hgives
    · exact hcut
    · obtain ⟨error, herror⟩ := handleRequestMessage_of_inboundDispatch.1 hgives
      rw [deliverAnswered_succ, herror] at h
      cases h

end Net

end Makaio.Bus
