import Makaio.Server.TransportInvariant

set_option autoImplicit false

/-!
# Who may send to the server

Every frame that is neither part of a handshake nor dropped in the authentication phase passes the check of
the dispatcher, which asks the strategy selected for the socket.  A refused socket is cleaned up, and with
two strategies it then has no strategy: the dispatcher lets it pass, and its peer is unknown.

## Main definitions

* `TransportEvent.Admitted` — what is demanded of a frame that reaches the routing and of a
  message that reaches handlers or other clients.
* `Transport.StrategyKept` — a frame reaches the check on a socket that a strategy has on
  record.

## Main results

* `frame_admitted_iff` — a step is admitted exactly when the strategy was kept.
* `refused_socket_passes` — a socket is refused after a rotation, and its next frame is
  routed.
-/

namespace Makaio.Server

open Foundations Bus

variable {SigningKey : Type} {config : ServerConfig SigningKey}

/-- A frame is routed only for an admitted socket whose proof is valid for its own nonce and whose
identity, if it has one, still has the secret; a message of an identity with message subjects has one of
them as its subject. -/
def TransportEvent.Admitted (config : ServerConfig SigningKey) (w : Transport SigningKey) :
    TransportEvent → Prop
  | .routed client => ∃ socket a, w.sockets.get? client = some socket ∧
      socket.auth.admitted = some a ∧ a.Proved config.crypto config.secret w.Known ∧
      a.nonce = socket.auth.nonce ∧ a.Current w.identities
  | .reached client _ subject => ∃ socket a, w.sockets.get? client = some socket ∧
      socket.auth.admitted = some a ∧ ∀ identityId allowed, a.credential.identityId = some identityId →
        w.identities.allowedMessageSubjects identityId = some allowed → subject ∈ allowed
  | .written .. => True

/-- A frame that is not handled as a message of a handshake, nor dropped in the authentication phase,
comes from a socket whose strategy is HMAC or which has an E2E session. -/
def Transport.StrategyKept (w : Transport SigningKey) : TransportAction SigningKey → Prop
  | .frame client frame => ∀ socket, w.sockets.get? client = some socket →
      (socket.auth.handleAuthMessage w.e2e frame.authMessage).1 = false →
      w.registry.isAuthenticating client = false →
      socket.auth.resolveSocketStrategy w.e2e = some .hmac ∨ socket.auth.e2eSession.isSome
  | _ => True

namespace SocketAuth

variable {st : SocketAuth SigningKey}
variable {message : AuthMessage} {e2e : Bool}
variable {strategy : Strategy} {identities : IdentitySecrets}

/-- A message that a strategy does not handle is no concern of it. -/
lemma forwardAuthMessage_of_false (h : (st.forwardAuthMessage strategy message).1 = false) :
    (st.forwardAuthMessage strategy message).2 = st := by
  cases strategy with
  | hmac =>
    cases message with
    | authResponse | malformedAuthResponse | hmacClientSide => cases h
    | keyExchange | malformedKeyExchange | e2eClientSide | application => rfl
  | e2e =>
    cases message with
    | keyExchange | malformedKeyExchange | e2eClientSide => cases h
    | authResponse | malformedAuthResponse | hmacClientSide | application => rfl

/-- A message that selects a strategy is handled by it. -/
lemma forwardAuthMessage_of_resolveStrategy (h : resolveStrategy e2e message = some strategy) :
    (st.forwardAuthMessage strategy message).1 = true := by
  cases message with
  | authResponse | malformedAuthResponse => cases h; rfl
  | keyExchange | malformedKeyExchange =>
    rw [resolveStrategy] at h
    split_ifs at h
    cases h
    rfl
  | hmacClientSide | e2eClientSide | application => cases h

/-- A message that the dispatcher does not handle leaves the strategy and the session alone. -/
lemma handleAuthMessage_of_false (h : (st.handleAuthMessage e2e message).1 = false) :
    (st.handleAuthMessage e2e message).2.strategy = st.strategy ∧
      (st.handleAuthMessage e2e message).2.e2eSession = st.e2eSession := by
  rw [handleAuthMessage] at h ⊢
  split at h
  · rename_i strategy hstrategy
    rw [forwardAuthMessage_of_false h]
    exact ⟨rfl, rfl⟩
  · split at h
    · rw [rejectPending, cancelHmac]
      split_ifs <;> exact ⟨rfl, rfl⟩
    · rename_i hresolved
      rw [forwardAuthMessage_of_resolveStrategy hresolved] at h
      cases h

/-- Without a check of HMAC, the dispatcher lets a socket pass. -/
lemma isSocketAuthenticated_of_ne (h : st.resolveSocketStrategy e2e ≠ some .hmac) :
    (st.isSocketAuthenticated e2e identities).1 = true := by
  rw [isSocketAuthenticated]
  split
  · rename_i hstrategy
    exact absurd hstrategy h
  · rfl
  · rfl

/-- A socket that passes the check is admitted exactly when a strategy has it on record. -/
lemma Inv.admitted_iff {crypto : Crypto SigningKey} {secret : String} {known : String → SigningKey → Prop}
    (h : st.Inv crypto secret known) (hcheck : (st.isSocketAuthenticated e2e identities).1 = true) :
    st.admitted.isSome ↔ st.resolveSocketStrategy e2e = some .hmac ∨ st.e2eSession.isSome := by
  constructor
  · intro hsome
    obtain ⟨a, ha⟩ := Option.isSome_iff_exists.mp hsome
    have hstored := h.stored a ha
    cases hc : a.credential with
    | global | identity => rw [hc] at hstored; exact .inl (resolveSocketStrategy_of_strategy hstored.1 e2e)
    | device => rw [hc] at hstored; exact .inr (by rw [hstored.2]; rfl)
  · rintro (hstrategy | hsession)
    · obtain ⟨a, ha, -⟩ := h.admitted_of_hmac hstrategy hcheck
      rw [ha]
      rfl
    · exact (h.e2eOver hsession).1

end SocketAuth

namespace Transport

variable {w w' : Transport SigningKey} {events : List TransportEvent}

/-- Writing to clients is nothing that a socket sends. -/
lemma admitted_writeAll (selected : List Socket × Transport SigningKey) (kind : MessageKind)
    (subject : Key) (payload : Option Json) (w : Transport SigningKey) :
    ∀ e ∈ (writeAll selected kind subject payload).2, e.Admitted config w := by
  intro e he
  obtain ⟨c, -, rfl⟩ := List.mem_map.mp he
  trivial

lemma admitted_tryClients (number : ℕ) (request : OutboundRequest) (throws : Socket → Bool)
    (w' : Transport SigningKey) : ∀ e ∈ (w.tryClients number request throws).2, e.Admitted config w' := by
  intro e he
  rw [tryClients] at he
  split at he
  · cases he
  · split_ifs at he
    · rw [List.mem_singleton.mp he]
      trivial
    · cases he

/-- A message is routed for its subject: the peer is unrestricted or allowed to send it. -/
lemma mem_of_not_rejectDisallowedSubject {peer : Option String} {subject : Key}
    (h : w.rejectDisallowedSubject peer subject = false) {identityId : String} {allowed : List Key}
    (hpeer : peer = some identityId)
    (hallowed : w.identities.allowedMessageSubjects identityId = some allowed) : subject ∈ allowed := by
  rw [rejectDisallowedSubject, hpeer, Option.bind_some, hallowed] at h
  simpa using h

variable {client : Socket} {socket : ServerSocket SigningKey}

/-- **A routed message of an admitted socket** reaches handlers and other clients only under a subject
its identity may send. -/
lemma admitted_routeMessage {v : Transport SigningKey} {a : Admission SigningKey}
    (hget : v.sockets.get? client = some socket) (ha : socket.auth.admitted = some a)
    (hidentities : w.identities = v.identities) (message : ClientMessage) :
    ∀ e ∈ (w.routeMessage client a.credential.identityId message).2, e.Admitted config v := by
  have hreached {subject : Key} (kind : MessageKind)
      (h : w.rejectDisallowedSubject a.credential.identityId subject = false) :
      (TransportEvent.reached client kind subject).Admitted config v :=
    ⟨socket, a, hget, ha, fun identityId allowed hidentity hallowed =>
      mem_of_not_rejectDisallowedSubject h hidentity (by rw [hidentities]; exact hallowed)⟩
  intro e he
  cases message with
  | other => cases he
  | subscribe message | unsubscribe subjects =>
    rw [routeMessage] at he
    split_ifs at he
    · cases he
    · cases he
  | event subject payload =>
    rw [routeMessage] at he
    split_ifs at he with hallowed
    · cases he
    · rcases List.mem_cons.mp he with rfl | he
      · exact hreached .event (by simpa using hallowed)
      · exact admitted_writeAll _ _ _ _ v e he
  | request subject payload correlationId timeout =>
    rw [routeMessage] at he
    split_ifs at he with hallowed
    · cases he
    · rw [List.mem_singleton.mp he]
      exact hreached .request (by simpa using hallowed)
  | broadcast subject payload correlationId =>
    rw [routeMessage] at he
    split_ifs at he with hallowed
    · cases he
    · rcases List.mem_cons.mp he with rfl | he
      · exact hreached .broadcast (by simpa using hallowed)
      · exact admitted_writeAll _ _ _ _ v e he

/-- **An inbound frame is admitted exactly when the strategy was kept.** -/
lemma Inv.receiveFrame_admitted_iff (h : w.Inv config) (hget : w.sockets.get? client = some socket)
    (frame : Frame) :
    (∀ e ∈ (w.receiveFrame client socket frame).2, e.Admitted config w) ↔
      w.StrategyKept (.frame client frame) := by
  have hsocket := h.sockets client socket hget
  obtain ⟨hauth, hadmitted, -⟩ := hsocket.auth.handleAuthMessage w.e2e frame.authMessage
  have hkept : w.StrategyKept (.frame client frame) ↔
      ((socket.auth.handleAuthMessage w.e2e frame.authMessage).1 = false →
        w.registry.isAuthenticating client = false →
        socket.auth.resolveSocketStrategy w.e2e = some .hmac ∨ socket.auth.e2eSession.isSome) := by
    refine ⟨fun hk => hk socket hget, fun hk s hs => ?_⟩
    rw [hget] at hs
    cases hs
    exact hk
  rw [hkept, Transport.receiveFrame]
  dsimp only
  split_ifs with hconsumed hphase hchecked
  · exact ⟨fun _ hfalse => (by rw [hconsumed] at hfalse; cases hfalse), fun _ e he => by cases he⟩
  · exact ⟨fun _ _ hfalse => (by rw [hphase] at hfalse; cases hfalse), fun _ e he => by cases he⟩
  · -- A refused socket was asked for by HMAC.
    refine ⟨fun _ hnot _ => .inl ?_, fun _ e he => by cases he⟩
    by_contra hne
    have hstrategy := (SocketAuth.handleAuthMessage_of_false hnot).1
    rw [SocketAuth.resolveSocketStrategy, ← hstrategy] at hne
    rw [SocketAuth.isSocketAuthenticated_of_ne hne] at hchecked
    cases hchecked
  · have hnot : (socket.auth.handleAuthMessage w.e2e frame.authMessage).1 = false := by
      simpa using hconsumed
    have hpassed : ((socket.auth.handleAuthMessage w.e2e frame.authMessage).2.isSocketAuthenticated
        w.e2e w.identities).1 = true := by simpa using hchecked
    obtain ⟨hstrategy, hsession⟩ := SocketAuth.handleAuthMessage_of_false hnot
    have hiff := hauth.admitted_iff hpassed
    rw [hadmitted, SocketAuth.resolveSocketStrategy, hstrategy, hsession] at hiff
    constructor
    · intro hall _ _
      obtain ⟨s, a, hs, ha, -⟩ := hall _ List.mem_cons_self
      rw [hget] at hs
      cases hs
      exact hiff.mp (by rw [ha]; rfl)
    · intro hcondition
      have hsome := hiff.mpr (hcondition hnot (by simpa using hphase))
      obtain ⟨a, ha⟩ := Option.isSome_iff_exists.mp hsome
      have hcurrent := hauth.current hpassed (hadmitted.trans ha)
      have hproved := hsocket.auth.proved a ha
      rw [SocketAuth.isSocketAuthenticated_of_true hpassed,
        hauth.receivePeer w.e2e (hadmitted.trans ha) hcurrent]
      intro e he
      rcases List.mem_cons.mp he with rfl | he
      · exact ⟨socket, a, hget, ha, hproved.1, hproved.2, hcurrent⟩
      · exact admitted_routeMessage (w := w.setAuth client socket _) hget ha rfl _ e he

end Transport

/-- **What a socket may send**: in every reachable state, a step routes only frames of admitted sockets,
and lets their messages reach only under allowed subjects, exactly when a frame that reaches the check
comes from a socket whose strategy is HMAC or which has an E2E session. -/
theorem frame_admitted_iff {w w' : Transport SigningKey} {a : TransportAction SigningKey}
    {events : List TransportEvent} (hw : TransportReach config w)
    (hstep : w.step config a = some (w', events)) :
    (∀ e ∈ events, e.Admitted config w) ↔ w.StrategyKept a := by
  have hinv := hw.inv
  cases a with
  | frame client frame =>
    obtain ⟨socket, hget, hstep⟩ := Option.bind_eq_some_iff.mp hstep
    split_ifs at hstep
    rw [show events = (w.receiveFrame client socket frame).2 by rw [Option.some.inj hstep]]
    exact hinv.receiveFrame_admitted_iff hget frame
  | send broadcast subject payload =>
    cases hstep
    exact ⟨fun _ => trivial, fun _ => Transport.admitted_writeAll _ _ _ _ w⟩
  | sendToConnection connectionId subject payload =>
    cases hstep
    refine ⟨fun _ => trivial, fun _ e he => ?_⟩
    obtain ⟨c, -, rfl⟩ := List.mem_map.mp he
    trivial
  | sendRequest correlationId subject payload throws =>
    rw [show events = (w.routeRequestToClients none correlationId subject payload throws).2 by
      rw [Option.some.inj hstep]]
    exact ⟨fun _ => trivial, fun _ => Transport.admitted_tryClients _ _ _ w⟩
  | forwardRequest index throws =>
    obtain ⟨request, -, heq⟩ := Option.map_eq_some_iff.mp hstep
    rw [show events = (w.routeRequestToClients (some request.socket) request.correlationId
      request.subject request.payload throws).2 by rw [heq]]
    exact ⟨fun _ => trivial, fun _ => Transport.admitted_tryClients _ _ _ w⟩
  | retryRequest number throws =>
    obtain ⟨request, -, heq⟩ := Option.map_eq_some_iff.mp hstep
    rw [show events = (w.tryClients number request throws).2 by rw [heq]]
    exact ⟨fun _ => trivial, fun _ => Transport.admitted_tryClients _ _ _ w⟩
  | _ =>
    rw [Transport.events_of_isSilent hstep rfl]
    exact ⟨fun _ => trivial, fun _ e he => by cases he⟩

/-! ### A rotation -/

/-- A server on which the secret "s1" answers the nonce "n1" with "a1". -/
def sampleConfig : ServerConfig Unit where
  crypto := ⟨fun secret nonce => if secret = "s1" ∧ nonce = "n1" then "a1" else "b2",
    fun _ _ _ => false⟩
  secret := "s0"

/-- An identity that may send under one subject. -/
def sampleOptions : HmacIdentitySecretRegistrationOptions where
  peerKind := "plugin"
  allowedMessageSubjects := some ["log.write"]
  allowedSubscriptionSubjects := none
  requiredSubscriptionFilters := none

/-- Socket 1 authenticates as an identity, whose secret is then rotated; its next frame is refused. -/
def refusedAfterRotation : List (TransportAction Unit) :=
  [.registerIdentity "plugin-1" "s1" sampleOptions,
    .connect 1 "n1" true,
    .frame 1 (.auth (.authResponse (some "a1") (some "plugin-1"))),
    .continueHmac 1 true "connection-1",
    .continueHmac 1 true "connection-1",
    .continueSetup 1,
    .rotateIdentity "plugin-1" "s2",
    .frame 1 (.application (.event "admin.stop" none))]

/-- The step of the transport without its events. -/
def sampleStep (w : Transport Unit) (a : TransportAction Unit) : Option (Transport Unit) :=
  (w.step sampleConfig a).map Prod.fst

/-- The server after the frame was refused. -/
def afterRefusal : Transport Unit :=
  (runGuarded sampleStep (fun _ _ => True) (.initial true) refusedAfterRotation).getD (.initial true)

/-- The frame after the refused one. -/
def secondFrame : TransportAction Unit := .frame 1 (.application (.event "admin.stop" none))

/-- The server after the frame was refused is reachable. -/
lemma afterRefusal_reachable : TransportReach sampleConfig afterRefusal :=
  Reach.of_runGuarded refusedAfterRotation (.start ⟨true, rfl⟩) rfl

/-- **The socket of a rotated identity**: after its frame was refused, the next one is routed, and reaches
the handlers under a subject that the identity may not send. -/
theorem refused_socket_passes : ¬∀ (w w' : Transport Unit) (a : TransportAction Unit)
    (events : List TransportEvent), TransportReach sampleConfig w →
      w.step sampleConfig a = some (w', events) → ∀ e ∈ events, e.Admitted sampleConfig w := by
  intro h
  obtain ⟨w', events, hstep, hevents, hcleaned⟩ : ∃ w' events,
      afterRefusal.step sampleConfig secondFrame = some (w', events) ∧
        events = [.routed 1, .reached 1 .event "admin.stop"] ∧
        (afterRefusal.sockets.get? 1).bind (fun socket => socket.auth.admitted) = none :=
    ⟨_, _, rfl, rfl, rfl⟩
  obtain ⟨socket, a, hget, ha, -⟩ :=
    h afterRefusal w' secondFrame events afterRefusal_reachable hstep (.routed 1) (by
      rw [hevents]; exact List.mem_cons_self)
  rw [hget, Option.bind_some, ha] at hcleaned
  cases hcleaned

/-- The server before the rotation. -/
def beforeRotation : Transport Unit :=
  (runGuarded sampleStep (fun _ _ => True) (.initial true) (refusedAfterRotation.take 6)).getD
    (.initial true)

/-- Before the rotation a frame of the socket is admitted; after the refusal it is not. -/
theorem frame_admitted_iff_rotation :
    (∃ w' events, beforeRotation.step sampleConfig secondFrame = some (w', events) ∧
      events = [.routed 1] ∧ ∀ e ∈ events, e.Admitted sampleConfig beforeRotation) ∧
    ∃ w' events, afterRefusal.step sampleConfig secondFrame = some (w', events) ∧
      ¬∀ e ∈ events, e.Admitted sampleConfig afterRefusal := by
  constructor
  · have hreach : TransportReach sampleConfig beforeRotation :=
      Reach.of_runGuarded (refusedAfterRotation.take 6) (.start ⟨true, rfl⟩) rfl
    refine ⟨_, _, rfl, rfl, (frame_admitted_iff hreach (a := secondFrame) rfl).mpr ?_⟩
    intro socket hget _ _
    obtain ⟨s, hs, hstrategy⟩ : ∃ s, beforeRotation.sockets.get? 1 = some s ∧
        s.auth.resolveSocketStrategy beforeRotation.e2e = some .hmac := ⟨_, rfl, rfl⟩
    rw [hget] at hs
    cases hs
    exact .inl hstrategy
  · refine ⟨_, _, rfl, fun hall => ?_⟩
    have hkept := (frame_admitted_iff afterRefusal_reachable (a := secondFrame) rfl).mp hall
    obtain ⟨s, hs, hhandled, hphase, hstrategy, hsession⟩ : ∃ s, afterRefusal.sockets.get? 1 = some s ∧
        (s.auth.handleAuthMessage afterRefusal.e2e .application).1 = false ∧
        afterRefusal.registry.isAuthenticating 1 = false ∧
        s.auth.resolveSocketStrategy afterRefusal.e2e ≠ some .hmac ∧ s.auth.e2eSession = none :=
      ⟨_, rfl, rfl, rfl, by decide, rfl⟩
    rcases hkept s hs hhandled hphase with h | h
    · exact hstrategy h
    · rw [hsession] at h
      cases h

end Makaio.Server
