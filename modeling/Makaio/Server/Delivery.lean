import Makaio.Server.TransportInvariant

set_option autoImplicit false

/-!
# What the server may write to its clients

A frame with an event, a request or a broadcast should be written only to an open client whose
authentication is current, under a subject and with a payload that the policy of its identity allows now.
The fan-out selects its recipients by these checks and writes at once.  A frame for one connection is not
checked against the policy, a request is written to later clients on the checks of its beginning, and the
client a request came from is known to its routing only by the recorded origin.

## Main definitions

* `Transport.Authorized` — what is demanded of a write.
* `Transport.PolicyChecked` — a step that writes without the checks would pass them.

## Main results

* `Transport.Inv.authorized_iff` — the code's checks on a client that has left the
  authentication phase are the demand.
* `write_authorized_iff` — what a step writes is authorized exactly when it would pass the
  checks.
* `direct_event_unchecked` — an event for one connection under a subject its identity may
  not receive.
-/

namespace Makaio.Server

open Foundations Bus

variable {SigningKey : Type} {config : ServerConfig SigningKey}

/-- The client may be written a frame: it is open, admitted, its identity has not changed since, its
subjects and the required filter for the subject allow the frame, and the frame is not its own. -/
def Transport.Authorized (w : Transport SigningKey) (client : Socket) (subject : Key)
    (payload : Option Json) (source : Option Socket) : Prop :=
  (∃ socket a, w.sockets.get? client = some socket ∧ socket.readyState = .opened ∧
    socket.auth.admitted = some a ∧ a.Current w.identities ∧
    ∀ identityId, a.credential.identityId = some identityId →
      (∀ allowed, w.identities.allowedSubscriptionSubjects identityId = some allowed →
        ∃ pattern ∈ allowed, matchesSubscription subject pattern = true) ∧
      ∀ filters, w.identities.requiredSubscriptionFilters identityId = some filters →
        ∀ requiredFilter, filters.get? subject = some requiredFilter →
          matchesFilter payload requiredFilter = true) ∧
  source ≠ some client

/-- Everything a step writes is authorized in the state in which it writes. -/
def TransportEvent.Authorized (w : Transport SigningKey) : TransportEvent → Prop
  | .written client _ subject payload source => w.Authorized client subject payload source
  | _ => True

/-- The client that takes a request next may receive it, unless it is closed and nothing is written. -/
def Transport.NextMayReceive (w : Transport SigningKey) (request : OutboundRequest)
    (throws : Socket → Bool) : Prop :=
  ∀ target, request.remaining.find? (fun c => !throws c) = some target →
    ((w.sockets.get? target).any fun socket => socket.readyState = .opened) = true →
    w.mayReceive target request.subject request.payload = true ∧ request.source ≠ some target

/-- Where a step writes without a check, the check would pass: an event for one connection, a later
attempt of a request, and the first attempt of a client's request, which should not go to that client. -/
def Transport.PolicyChecked (w : Transport SigningKey) : TransportAction SigningKey → Prop
  | .sendToConnection connectionId subject payload => ∀ client,
      w.registry.clientsByConnectionId.get? connectionId = some client →
      (w.isReadyAndAuthenticated client).1 = true → w.mayReceive client subject payload = true
  | .forwardRequest index throws => ∀ request, w.received[index]? = some request →
      (w.registry.clients.find? fun c =>
        w.eligible request.subject request.payload (w.registry.getRequestOrigin request.correlationId) c &&
          w.advertisesHandler c request.subject && !throws c) ≠ some request.socket
  | .retryRequest number throws => ∀ request, w.requests.get? number = some request →
      w.NextMayReceive request throws
  | _ => True

namespace SocketAuth

variable {st : SocketAuth SigningKey}

/-- An admitted socket passes the check as long as its admission is current. -/
lemma Inv.isSocketAuthenticated_of_current {crypto : Crypto SigningKey} {secret : String}
    {known : String → SigningKey → Prop} (h : st.Inv crypto secret known) (e2e : Bool)
    {identities : IdentitySecrets} {a : Admission SigningKey} (ha : st.admitted = some a)
    (hcurrent : a.Current identities) : (st.isSocketAuthenticated e2e identities).1 = true := by
  have hstored := h.stored a ha
  rw [Admission.Current] at hcurrent
  rw [SocketAuth.isSocketAuthenticated]
  cases hc : a.credential with
  | global =>
    rw [hc] at hstored
    rw [resolveSocketStrategy_of_strategy hstored.1]
    rw [hmacIsSocketAuthenticated, hstored.2.1, hstored.2.2]
    rfl
  | identity identityId secret' response =>
    rw [hc] at hstored hcurrent
    rw [resolveSocketStrategy_of_strategy hstored.1]
    rw [hmacIsSocketAuthenticated, hstored.2.1, hstored.2.2.1, hstored.2.2.2]
    dsimp only
    rw [hcurrent]
    simp
  | device =>
    rw [hc] at hstored
    rw [resolveSocketStrategy_of_strategy hstored.1]

end SocketAuth

namespace Transport

variable {w w' : Transport SigningKey} {client : Socket} {subject : Key} {payload : Option Json}

/-- A client that can be written to is open, and the check of the dispatcher passes. -/
lemma isReadyAndAuthenticated_iff : (w.isReadyAndAuthenticated client).1 = true ↔
    ∃ socket, w.sockets.get? client = some socket ∧ socket.readyState = .opened ∧
      (socket.auth.isSocketAuthenticated w.e2e w.identities).1 = true := by
  rw [isReadyAndAuthenticated]
  cases hget : w.sockets.get? client with
  | none => simp
  | some socket =>
    by_cases hopened : socket.readyState = .opened
    · by_cases hcheck : (socket.auth.isSocketAuthenticated w.e2e w.identities).1 = true
      · simp [hopened, hcheck]
      · simp [hopened, hcheck]
    · simp [hopened]

/-- The subject check, by the identity of the peer. -/
lemma isSubjectAllowedForClient_iff : w.isSubjectAllowedForClient client subject = true ↔
    ∀ identityId, w.peerOf client = some identityId →
      ∀ allowed, w.identities.allowedSubscriptionSubjects identityId = some allowed →
      ∃ pattern ∈ allowed, matchesSubscription subject pattern = true := by
  rw [isSubjectAllowedForClient]
  cases w.peerOf client with
  | none => simp
  | some identityId =>
    rw [Option.bind_some]
    cases hallowed : w.identities.allowedSubscriptionSubjects identityId with
    | none | some allowed => simp [hallowed]

/-- The payload check, by the identity of the peer. -/
lemma isPayloadAllowedForClient_iff : w.isPayloadAllowedForClient client subject payload = true ↔
    ∀ identityId, w.peerOf client = some identityId →
      ∀ filters, w.identities.requiredSubscriptionFilters identityId = some filters →
      ∀ requiredFilter, filters.get? subject = some requiredFilter →
        matchesFilter payload requiredFilter = true := by
  rw [isPayloadAllowedForClient]
  cases w.peerOf client with
  | none => simp
  | some identityId =>
    rw [Option.bind_some]
    cases hfilters : w.identities.requiredSubscriptionFilters identityId with
    | none => simp [hfilters]
    | some filters =>
      rw [Option.bind_some]
      cases hrequired : filters.get? subject with
      | none | some requiredFilter => simp [hfilters, hrequired]

/-- **The checks of the code are the demand** on a client that has left the authentication phase. -/
lemma Inv.authorized_iff (h : w.Inv config) (hpassed : w.Passed client) (subject : Key)
    (payload : Option Json) (source : Option Socket) :
    w.Authorized client subject payload source ↔
      w.mayReceive client subject payload = true ∧ source ≠ some client := by
  rw [Authorized, mayReceive, Bool.and_eq_true, Bool.and_eq_true, isReadyAndAuthenticated_iff,
    isSubjectAllowedForClient_iff, isPayloadAllowedForClient_iff]
  refine and_congr_left fun _ => ?_
  constructor
  · rintro ⟨socket, a, hget, hopened, ha, hcurrent, hpolicy⟩
    have hauth := (h.sockets client socket hget).auth
    have hpeer : w.peerOf client = a.credential.identityId := by
      rw [peerOf, hget, Option.bind_some]
      exact hauth.receivePeer w.e2e ha hcurrent
    rw [hpeer]
    exact ⟨⟨⟨socket, hget, hopened, hauth.isSocketAuthenticated_of_current w.e2e ha hcurrent⟩,
      fun identityId hid => (hpolicy identityId hid).1⟩,
      fun identityId hid => (hpolicy identityId hid).2⟩
  · rintro ⟨⟨⟨socket, hget, hopened, hcheck⟩, hsubject⟩, hfilter⟩
    have hsocket := h.sockets client socket hget
    have hlistening : socket.listening = true := by
      by_contra hsilent
      rw [hsocket.silent (by simpa using hsilent)] at hopened
      cases hopened
    obtain ⟨a, ha⟩ := Option.isSome_iff_exists.mp (hsocket.opened hlistening hpassed.2 hopened)
    have hcurrent := hsocket.auth.current hcheck ha
    have hpeer : w.peerOf client = a.credential.identityId := by
      rw [peerOf, hget, Option.bind_some]
      exact hsocket.auth.receivePeer w.e2e ha hcurrent
    rw [hpeer] at hsubject hfilter
    exact ⟨socket, a, hget, hopened, ha, hcurrent,
      fun identityId hid => ⟨hsubject identityId hid, hfilter identityId hid⟩⟩

/-- A listed client has left the authentication phase. -/
lemma Inv.passed (h : w.Inv config) (hlisted : w.registry.Listed client) : w.Passed client := by
  obtain ⟨⟨socket, hget, -⟩, hphase⟩ := h.listed client hlisted
  exact ⟨by rw [hget]; rfl, hphase⟩

/-- **The fan-out** writes only what is authorized. -/
lemma Inv.authorized_writeAll (h : w.Inv config) (kind : MessageKind) (subject : Key)
    (payload : Option Json) (exclude : Option Socket) :
    ∀ e ∈ (writeAll (w.getInterestedClients subject payload exclude) kind subject payload).2,
      e.Authorized (writeAll (w.getInterestedClients subject payload exclude) kind subject payload).1 := by
  obtain ⟨hselecting, hselected⟩ := h.getInterestedClients subject payload exclude
  intro e he
  obtain ⟨c, hc, rfl⟩ := List.mem_map.mp he
  rw [hselected] at hc
  obtain ⟨hclient, heligible⟩ := List.mem_filter.mp hc
  rw [eligible, Bool.and_eq_true] at heligible
  obtain ⟨sockets, hsockets⟩ := hselecting.frame
  have hpassed : (w.getInterestedClients subject payload exclude).2.Passed c :=
    hselecting.inv.passed (by rw [hsockets]; exact .inl hclient)
  refine (hselecting.inv.authorized_iff hpassed subject payload none).mpr ⟨?_, by simp⟩
  rw [hselecting.mayReceive]
  exact heligible.2

/-- A message of a client is written to other clients only as far as it is authorized. -/
lemma Inv.authorized_routeMessage (h : w.Inv config) (client : Socket) (peer : Option String)
    (message : ClientMessage) : ∀ e ∈ (w.routeMessage client peer message).2,
      e.Authorized (w.routeMessage client peer message).1 := by
  intro e he
  cases message with
  | other => cases he
  | subscribe message | unsubscribe subjects =>
    rw [Transport.routeMessage] at he
    split_ifs at he
    · cases he
    · cases he
  | event subject payload =>
    rw [Transport.routeMessage] at he ⊢
    split_ifs at he ⊢
    · cases he
    · rcases List.mem_cons.mp he with rfl | he
      · trivial
      · exact h.authorized_writeAll _ _ _ _ e he
  | request subject payload correlationId timeout =>
    rw [Transport.routeMessage] at he
    split_ifs at he
    · cases he
    · rw [List.mem_singleton.mp he]
      trivial
  | broadcast subject payload correlationId =>
    rw [Transport.routeMessage] at he ⊢
    split_ifs at he ⊢
    · cases he
    · rcases List.mem_cons.mp he with rfl | he
      · trivial
      · exact h.authorized_writeAll _ _ _ _ e he

/-- An inbound frame leads to authorized writes only. -/
lemma Inv.authorized_receiveFrame (h : w.Inv config) {socket : ServerSocket SigningKey}
    (hget : w.sockets.get? client = some socket) (hlistening : socket.listening = true)
    (frame : Frame) : ∀ e ∈ (w.receiveFrame client socket frame).2,
      e.Authorized (w.receiveFrame client socket frame).1 := by
  have hsocket := h.sockets client socket hget
  obtain ⟨hauth, -, hproceeds⟩ := hsocket.auth.handleAuthMessage w.e2e frame.authMessage
  have hkept : (w.setAuth client socket
      (socket.auth.handleAuthMessage w.e2e frame.authMessage).2).Inv config :=
    h.setAuth (hsocket.proceeds hauth hproceeds) fun _ _ _ => hlistening
  intro e he
  rw [Transport.receiveFrame] at he ⊢
  dsimp only at he ⊢
  split_ifs at he ⊢ with hconsumed hphase hchecked
  · cases he
  · cases he
  · cases he
  · rw [SocketAuth.isSocketAuthenticated_of_true (by simpa using hchecked)] at he ⊢
    rcases List.mem_cons.mp he with rfl | he
    · trivial
    · exact hkept.authorized_routeMessage _ _ _ e he

/-- What is left of a list after the elements that a predicate takes begins with the first other. -/
lemma head?_dropWhile {α : Type} (p : α → Bool) (l : List α) :
    (l.dropWhile p).head? = l.find? fun x => !p x := by
  induction l with
  | nil => rfl
  | cons x l ih =>
    cases hx : p x with
    | true => rw [List.dropWhile_cons_of_pos hx, ih, List.find?_cons_of_neg (by simp [hx])]
    | false =>
      rw [List.dropWhile_cons_of_neg (by simp [hx]), List.find?_cons_of_pos (by simp [hx]),
        List.head?_cons]

/-- **The attempt of a request** is authorized exactly when its client may receive it. -/
lemma Inv.authorized_tryClients_iff (h : w.Inv config) {number : ℕ} {request : OutboundRequest}
    (hremaining : ∀ c ∈ request.remaining, w.Passed c) (throws : Socket → Bool) :
    (∀ e ∈ (w.tryClients number request throws).2,
      e.Authorized (w.tryClients number request throws).1) ↔ w.NextMayReceive request throws := by
  rw [NextMayReceive, ← head?_dropWhile, Transport.tryClients]
  cases hdrop : request.remaining.dropWhile throws with
  | nil => exact ⟨fun _ target htarget => (by cases htarget), fun _ e he => (by cases he)⟩
  | cons target remaining =>
    have hpassed : w.Passed target :=
      hremaining target (List.dropWhile_subset (p := throws) (by rw [hdrop]; exact List.mem_cons_self))
    have hiff := h.authorized_iff hpassed request.subject request.payload request.source
    dsimp only
    rw [List.head?_cons]
    constructor
    · intro hall target' htarget hopened
      cases htarget
      rw [if_pos hopened] at hall
      exact hiff.mp (hall _ (List.mem_singleton_self _))
    · intro hnext e he
      split_ifs at he with hopened
      · rw [List.mem_singleton.mp he]
        exact hiff.mpr (hnext target rfl hopened)
      · cases he

/-- **The first attempt of a request** is authorized exactly when the first eligible client that takes it
is not the one it came from. -/
lemma Inv.authorized_routeRequestToClients_iff (h : w.Inv config) (source : Option Socket)
    (correlationId : String) (throws : Socket → Bool) :
    (∀ e ∈ (w.routeRequestToClients source correlationId subject payload throws).2,
      e.Authorized (w.routeRequestToClients source correlationId subject payload throws).1) ↔
    ∀ target, (w.registry.clients.find? fun c =>
      w.eligible subject payload (w.registry.getRequestOrigin correlationId) c &&
        w.advertisesHandler c subject && !throws c) = some target → source ≠ some target := by
  obtain ⟨hselecting, hselected⟩ := h.getInterestedClients subject payload
    (w.registry.getRequestOrigin correlationId)
  rw [Transport.routeRequestToClients, getInterestedRequestClients]
  rw [hselected]
  generalize hv : (w.getInterestedClients subject payload
    (w.registry.getRequestOrigin correlationId)).2 = v at hselecting
  have hinv : Inv config { v with nextRequest := w.nextRequest + 1 } :=
    ⟨hselecting.inv.sockets, hselecting.inv.listed, hselecting.inv.devices, hselecting.inv.tried,
      hselecting.inv.origins⟩
  have hclient (c : Socket) (hc : c ∈ w.registry.clients) : v.Passed c := by
    obtain ⟨sockets, hsockets⟩ := hselecting.frame
    exact hselecting.inv.passed (by rw [hsockets]; exact .inl hc)
  rw [hinv.authorized_tryClients_iff (fun c hc => hclient c
    (List.mem_filter.mp (List.mem_filter.mp hc).1).1), NextMayReceive]
  rw [List.filter_filter, List.find?_filter]
  have hfind : (fun c => decide ((w.advertisesHandler c subject &&
        w.eligible subject payload (w.registry.getRequestOrigin correlationId) c) = true ∧
        (!throws c) = true)) =
      fun c => w.eligible subject payload (w.registry.getRequestOrigin correlationId) c &&
        w.advertisesHandler c subject && !throws c := by
    funext c
    simp [Bool.and_comm]
  rw [hfind]
  -- An eligible client may receive the request, and it is open.
  refine forall₂_congr fun target htarget => ?_
  have heligible := List.find?_some htarget
  rw [Bool.and_eq_true, Bool.and_eq_true, eligible, Bool.and_eq_true] at heligible
  have hsame := mayReceive_congr (w := v) (v := { v with nextRequest := w.nextRequest + 1 })
    rfl rfl (show v.sockets.get? target = _ from rfl) subject payload
  have hmay := hsame.trans ((hselecting.mayReceive target subject payload).trans heligible.1.1.2)
  refine ⟨fun hnext => (hnext ?_).2, fun hsource _ => ⟨hmay, hsource⟩⟩
  rw [mayReceive, Bool.and_eq_true, Bool.and_eq_true] at hmay
  obtain ⟨socket, hget, hopened, -⟩ := isReadyAndAuthenticated_iff.mp hmay.1.1
  rw [hget, Option.any_some, hopened]
  rfl

/-- **A frame for one connection** is authorized exactly when the policy of its client allows it. -/
lemma Inv.authorized_sendToConnection_iff (h : w.Inv config) (connectionId : String) :
    (∀ e ∈ (w.getClientByConnectionId connectionId).1.toList.map fun c =>
        TransportEvent.written c .event subject payload none,
      e.Authorized (w.getClientByConnectionId connectionId).2) ↔
    w.PolicyChecked (.sendToConnection connectionId subject payload) := by
  rw [PolicyChecked, getClientByConnectionId]
  cases hclient : w.registry.clientsByConnectionId.get? connectionId with
  | none => exact ⟨fun _ c hc => (by cases hc), fun _ e he => (by cases he)⟩
  | some c =>
    have hpassed := h.passed (.inr ⟨connectionId, hclient⟩)
    dsimp only
    cases hready : (w.isReadyAndAuthenticated c).1 with
    | false =>
      refine ⟨fun _ c' hc' hready' => ?_, fun _ e he => (by cases he)⟩
      cases hc'
      rw [hready] at hready'
      cases hready'
    | true =>
      rw [isReadyAndAuthenticated_of_true hready]
      have hiff := h.authorized_iff hpassed subject payload none
      constructor
      · intro hall c' hc' _
        cases hc'
        exact (hiff.mp (hall _ (List.mem_singleton_self _))).1
      · intro hchecked e he
        rw [List.mem_singleton.mp he]
        exact hiff.mpr ⟨hchecked c rfl hready, by simp⟩

/-- **What a step writes is authorized exactly when it would pass the checks.** -/
lemma Inv.authorized_step_iff (h : w.Inv config) {a : TransportAction SigningKey}
    {events : List TransportEvent} (hstep : w.step config a = some (w', events)) :
    (∀ e ∈ events, e.Authorized w') ↔ w.PolicyChecked a := by
  cases a with
  | frame client frame =>
    obtain ⟨socket, hget, hstep⟩ := Option.bind_eq_some_iff.mp hstep
    split_ifs at hstep with hlistening
    obtain ⟨rfl, rfl⟩ := Prod.mk.inj (Option.some.inj hstep)
    exact ⟨fun _ => trivial, fun _ => h.authorized_receiveFrame hget hlistening frame⟩
  | send broadcast subject payload =>
    cases hstep
    exact ⟨fun _ => trivial, fun _ => h.authorized_writeAll _ subject payload none⟩
  | sendToConnection connectionId subject payload =>
    cases hstep
    exact h.authorized_sendToConnection_iff connectionId
  | sendRequest correlationId subject payload throws =>
    obtain ⟨rfl, rfl⟩ := Prod.mk.inj (Option.some.inj hstep)
    exact ⟨fun _ => trivial, fun _ =>
      (h.authorized_routeRequestToClients_iff none correlationId throws).mpr fun _ _ => by nofun⟩
  | forwardRequest index throws =>
    obtain ⟨request, hrequest, heq⟩ := Option.map_eq_some_iff.mp hstep
    obtain ⟨hw', hevents⟩ := Prod.ext_iff.mp heq
    rw [← show _ = w' from hw', ← show _ = events from hevents,
      h.authorized_routeRequestToClients_iff]
    constructor
    · intro hall request' hrequest' hfind
      rw [hrequest] at hrequest'
      cases hrequest'
      exact hall _ hfind rfl
    · intro hall target htarget hsource
      rw [← Option.some.inj hsource] at htarget
      exact hall request hrequest htarget
  | retryRequest number throws =>
    obtain ⟨request, hrequest, heq⟩ := Option.map_eq_some_iff.mp hstep
    obtain ⟨hw', hevents⟩ := Prod.ext_iff.mp heq
    rw [← show _ = w' from hw', ← show _ = events from hevents,
      h.authorized_tryClients_iff (h.tried number request hrequest)]
    constructor
    · intro hnext request' hrequest'
      rw [hrequest] at hrequest'
      cases hrequest'
      exact hnext
    · exact fun hall => hall request hrequest
  | _ =>
    rw [events_of_isSilent hstep rfl]
    exact ⟨fun _ => trivial, fun _ e he => by cases he⟩

end Transport

/-- **Outbound authorization**: in every reachable state, a step writes only what is authorized at that
moment exactly when the writes that it does not check would pass the checks. -/
theorem write_authorized_iff {w w' : Transport SigningKey} {a : TransportAction SigningKey}
    {events : List TransportEvent} (hw : TransportReach config w)
    (hstep : w.step config a = some (w', events)) :
    (∀ e ∈ events, e.Authorized w') ↔ w.PolicyChecked a :=
  hw.inv.authorized_step_iff hstep

/-! ### An event for one connection -/

/-- A server whose HMAC of every text is "a1". -/
def constantConfig : ServerConfig Unit where
  crypto := ⟨fun _ _ => "a1", fun _ _ _ => false⟩
  secret := "s0"

/-- The step of the transport without its events. -/
def constantStep (w : Transport Unit) (a : TransportAction Unit) : Option (Transport Unit) :=
  (w.step constantConfig a).map Prod.fst

/-- Socket 1 connects as an identity that may receive only events under one subject. -/
def restrictedClient : List (TransportAction Unit) :=
  [.registerIdentity "plugin-1" "s1"
      { peerKind := "plugin"
        allowedMessageSubjects := none
        allowedSubscriptionSubjects := some ["log.write"]
        requiredSubscriptionFilters := none },
    .connect 1 "n1" true,
    .frame 1 (.auth (.authResponse (some "a1") (some "plugin-1"))),
    .continueHmac 1 true "connection-1",
    .continueHmac 1 true "connection-1",
    .continueSetup 1]

/-- The server with the restricted client. -/
def withRestrictedClient : Transport Unit :=
  (runGuarded constantStep (fun _ _ => True) (.initial false) restrictedClient).getD (.initial false)

lemma withRestrictedClient_reachable : TransportReach constantConfig withRestrictedClient :=
  Reach.of_runGuarded restrictedClient (.start ⟨false, rfl⟩) rfl

/-- **An event for one connection** is written under a subject that its identity may not receive. -/
theorem direct_event_unchecked : ¬∀ (w w' : Transport Unit) (a : TransportAction Unit)
    (events : List TransportEvent), TransportReach constantConfig w →
      w.step constantConfig a = some (w', events) → ∀ e ∈ events, e.Authorized w' := by
  intro h
  obtain ⟨w', events, hstep, hwritten, hidentity, hallowed⟩ : ∃ w' events,
      withRestrictedClient.step constantConfig (.sendToConnection "connection-1" "admin.stop" none) =
        some (w', events) ∧
      events = [.written 1 .event "admin.stop" none none] ∧
      ((w'.sockets.get? 1).bind fun socket => socket.auth.admitted.bind fun a =>
        a.credential.identityId) = some "plugin-1" ∧
      w'.identities.allowedSubscriptionSubjects "plugin-1" = some ["log.write"] :=
    ⟨_, _, rfl, rfl, rfl, rfl⟩
  obtain ⟨⟨socket, a, hget, -, ha, -, hpolicy⟩, -⟩ :=
    h _ w' _ events withRestrictedClient_reachable hstep (.written 1 .event "admin.stop" none none) (by
      rw [hwritten]; exact List.mem_singleton_self _)
  rw [hget, Option.bind_some, ha, Option.bind_some] at hidentity
  obtain ⟨pattern, hpattern, hmatches⟩ := (hpolicy "plugin-1" hidentity).1 _ hallowed
  rw [List.mem_singleton.mp hpattern] at hmatches
  revert hmatches
  decide

/-- The allowed event for the connection passes the checks, the other one does not. -/
theorem write_authorized_iff_direct :
    (∃ w' events, withRestrictedClient.step constantConfig
      (.sendToConnection "connection-1" "log.write" none) = some (w', events) ∧
      ∀ e ∈ events, e.Authorized w') ∧
    ∃ w' events, withRestrictedClient.step constantConfig
      (.sendToConnection "connection-1" "admin.stop" none) = some (w', events) ∧
      ¬∀ e ∈ events, e.Authorized w' := by
  constructor
  · refine ⟨_, _, rfl, (write_authorized_iff withRestrictedClient_reachable
      (a := .sendToConnection "connection-1" "log.write" none) rfl).mpr ?_⟩
    intro client hclient _
    obtain rfl : 1 = client := Option.some.inj hclient
    decide
  · refine ⟨_, _, rfl, fun hall => ?_⟩
    have hchecked := (write_authorized_iff withRestrictedClient_reachable
      (a := .sendToConnection "connection-1" "admin.stop" none) rfl).mp hall
    have hmay := hchecked 1 rfl rfl
    revert hmay
    decide

/-- **A client of the registry has proved who it is**: if its socket is open, the socket has an admission that
was proved for its own nonce, and the strategy has it on record with the identity and the secret.  Whenever
the socket passes the check of the server, that is the secret of the identity. -/
theorem listed_proved {w : Transport SigningKey} {client : Socket} (h : TransportReach config w)
    (hlisted : w.registry.Listed client) : w.registry.isAuthenticating client = false ∧
      ∃ socket, w.sockets.get? client = some socket ∧ socket.listening = true ∧
        (socket.readyState = .opened → ∃ a, socket.auth.admitted = some a ∧ a.nonce = socket.auth.nonce ∧
          a.Proved config.crypto config.secret w.Known ∧ socket.auth.Stored a.credential ∧
          ((socket.auth.isSocketAuthenticated w.e2e w.identities).1 = true → a.Current w.identities)) := by
  obtain ⟨⟨socket, hget, hlistening⟩, hphase⟩ := h.inv.listed client hlisted
  have hsocket := h.inv.sockets client socket hget
  refine ⟨hphase, socket, hget, hlistening, fun hopened => ?_⟩
  obtain ⟨a, ha⟩ := Option.isSome_iff_exists.mp (hsocket.opened hlistening hphase hopened)
  obtain ⟨hproved, hnonce⟩ := hsocket.auth.proved a ha
  exact ⟨a, ha, hnonce, hproved, hsocket.auth.stored a ha, fun hcheck => hsocket.auth.current hcheck ha⟩

/-- The restricted client has been admitted with the secret of its identity. -/
theorem listed_proved_restricted : ∃ socket a, withRestrictedClient.sockets.get? 1 = some socket ∧
    socket.auth.admitted = some a ∧ a.nonce = socket.auth.nonce ∧ a.Current withRestrictedClient.identities := by
  have hlisted : withRestrictedClient.registry.Listed 1 := .inl (by decide)
  obtain ⟨-, socket, hget, -, hopen⟩ := listed_proved withRestrictedClient_reachable hlisted
  have hpasses : (withRestrictedClient.sockets.get? 1).any (fun socket => socket.readyState = .opened ∧
      (socket.auth.isSocketAuthenticated withRestrictedClient.e2e withRestrictedClient.identities).1 = true) := by
    decide
  rw [hget, Option.any_some, decide_eq_true_eq] at hpasses
  obtain ⟨a, hadmitted, hnonce, -, -, hcurrent⟩ := hopen hpasses.1
  exact ⟨socket, a, hget, hadmitted, hnonce, hcurrent hpasses.2⟩

end Makaio.Server
