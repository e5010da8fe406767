import Makaio.Foundations.Machine
import Makaio.Server.HandshakeInvariant
import Makaio.Server.Transport

set_option autoImplicit false

/-!
# The sockets of the server transport

A socket whose setup is over is out of the authentication phase only after an admission, and the registry
lists only such sockets; as long as one of them is open, its admission has not been cleaned up.

## Main definitions

* `ServerSocket.Inv` — the invariant of a socket, by whether it is in the authentication
  phase.
* `Transport.Inv` — the invariant of the transport.
* `TransportReach` — the states of the transport.

## Main results

* `Transport.inv_considerClient`, `inv_getInterestedClients` — selecting recipients keeps
  the invariant.
* `Transport.Inv.step` — every step keeps it.
* `TransportReach.inv` — it holds in every reachable state.
-/

namespace Makaio.Server

open Foundations Bus

variable {SigningKey : Type} {config : ServerConfig SigningKey}

/-- The keys known for the devices. -/
def Transport.Known (w : Transport SigningKey) (deviceId : String) (key : SigningKey) : Prop :=
  (deviceId, key) ∈ w.registeredKeys

/-- The invariant of a socket. -/
structure ServerSocket.Inv (config : ServerConfig SigningKey) (known : String → SigningKey → Prop)
    (authenticating : Bool) (socket : ServerSocket SigningKey) : Prop where
  auth : socket.auth.Inv config.crypto config.secret known
  /-- A socket stays in the authentication phase until its setup is over. -/
  waiting : socket.listening = true → socket.auth.setup ≠ .over → authenticating = true
  /-- A handshake that has succeeded has admitted the socket. -/
  succeeded : socket.listening = true → socket.auth.setup = .succeeded → socket.auth.admitted.isSome
  /-- An open socket after the authentication phase is admitted. -/
  opened : socket.listening = true → authenticating = false → socket.readyState = .opened →
    socket.auth.admitted.isSome
  /-- A socket without listeners is closed. -/
  silent : socket.listening = false → socket.readyState = .closed

/-- The registry has the socket among its clients. -/
def ClientRegistry.Listed (r : ClientRegistry PayloadFilter) (client : Socket) : Prop :=
  client ∈ r.clients ∨ ∃ connectionId, r.clientsByConnectionId.get? connectionId = some client

/-- The socket has left the authentication phase. -/
def Transport.Passed (w : Transport SigningKey) (client : Socket) : Prop :=
  (w.sockets.get? client).isSome ∧ w.registry.isAuthenticating client = false

/-- The invariant of the transport. -/
structure Transport.Inv (config : ServerConfig SigningKey) (w : Transport SigningKey) : Prop where
  sockets : ∀ client socket, w.sockets.get? client = some socket →
    socket.Inv config w.Known (w.registry.isAuthenticating client)
  listed : ∀ client, w.registry.Listed client →
    (∃ socket, w.sockets.get? client = some socket ∧ socket.listening = true) ∧
      w.registry.isAuthenticating client = false
  /-- What E2E finds for a device has been registered for it. -/
  devices : ∀ deviceId key, w.deviceKeys.get? deviceId = some key → w.Known deviceId key
  /-- The clients that a request has yet to try were listed once. -/
  tried : ∀ number request, w.requests.get? number = some request →
    ∀ client ∈ request.remaining, w.Passed client
  /-- A client that waits for a response has sent a request. -/
  origins : ∀ correlationId client, w.registry.getRequestOrigin correlationId = some client →
    w.Passed client

variable {auth : SocketAuth SigningKey}

namespace ServerSocket

variable {known : String → SigningKey → Prop} {authenticating : Bool} {socket : ServerSocket SigningKey}

/-- A handshake goes on: what it does to the entries keeps the invariant. -/
lemma Inv.proceeds (h : socket.Inv config known authenticating)
    (hauth : auth.Inv config.crypto config.secret known) (hproceeds : socket.auth.Proceeds auth) :
    Inv config known authenticating { socket with auth := auth } where
  auth := hauth
  waiting := fun hlistening hsetup => h.waiting hlistening fun hover => hsetup (hproceeds.ended.mpr hover)
  succeeded := fun hlistening hsetup => by
    rcases hproceeds.succeeded hsetup with hbefore | hadmitted
    · exact hproceeds.kept (h.succeeded hlistening hbefore)
    · exact hadmitted
  opened := fun hlistening hphase hopened => hproceeds.kept (h.opened hlistening hphase hopened)
  silent := h.silent

/-- The ready state after `socket.close()` is not open. -/
lemma close_ne_opened (readyState : ReadyState) : readyState.close ≠ .opened := by
  cases readyState <;> nofun

/-- A socket that was closed after the authentication phase may lose its admission. -/
lemma Inv.closing (h : socket.Inv config known authenticating) (hphase : authenticating = false)
    (hlistening : socket.listening = true) {readyState : ReadyState} (hclosed : readyState ≠ .opened)
    (hauth : auth.Inv config.crypto config.secret known)
    (hover : socket.auth.setup = .over → auth.setup = .over) :
    Inv config known authenticating { socket with readyState := readyState, auth := auth } := by
  have hsetup : socket.auth.setup = .over := by
    by_contra hne
    rw [h.waiting hlistening hne] at hphase
    cases hphase
  exact
    { auth := hauth
      waiting := fun _ hne => absurd (hover hsetup) hne
      succeeded := fun _ hsucceeded => by
        rw [show auth.setup = .over from hover hsetup] at hsucceeded
        cases hsucceeded
      opened := fun _ _ hopened => absurd hopened hclosed
      silent := fun hsilent => by
        rw [show socket.listening = false from hsilent] at hlistening
        cases hlistening }

/-- A close of the socket by either side. -/
lemma Inv.close (h : socket.Inv config known authenticating) :
    Inv config known authenticating { socket with readyState := socket.readyState.close } where
  auth := h.auth
  waiting := h.waiting
  succeeded := h.succeeded
  opened := fun _ _ hopened => absurd hopened (close_ne_opened _)
  silent := fun hsilent => by
    rw [h.silent hsilent]
    rfl

/-- More keys become known. -/
lemma Inv.mono {known' : String → SigningKey → Prop} (h : socket.Inv config known authenticating)
    (hknown : ∀ deviceId key, known deviceId key → known' deviceId key) :
    socket.Inv config known' authenticating :=
  ⟨h.auth.mono hknown, h.waiting, h.succeeded, h.opened, h.silent⟩

end ServerSocket

namespace SocketAuth

variable {st : SocketAuth SigningKey}

/-- A setup that is over stays over in a cleanup. -/
lemma setup_cleanupSocket (h : st.setup = .over) : st.cleanupSocket.setup = .over := by
  have hstrategy : st.cleanupStrategy.setup = .over := by
    rw [cleanupStrategy]
    split
    · exact h
    · exact h
    · exact h
  have hcancel : st.cleanupStrategy.cancelHmac.setup = .over := setup_cancelHmac.trans hstrategy
  rw [cleanupSocket, rejectPending]
  split_ifs
  · rw [settleSetup]
    rw [hcancel, if_neg (by simp)]
  · exact hcancel

/-- The check of an authenticated socket leaves the setup alone. -/
lemma setup_isSocketAuthenticated (e2e : Bool) (identities : IdentitySecrets) :
    (st.isSocketAuthenticated e2e identities).2.setup = st.setup := by
  rw [isSocketAuthenticated]
  split
  · rw [hmacIsSocketAuthenticated]
    split_ifs
    · rfl
    · split
      · rfl
      · split
        · rfl
        · split_ifs
          · rfl
          · rfl
  · rfl
  · rfl

end SocketAuth

namespace Transport

variable {w w' : Transport SigningKey} {client : Socket} {socket : ServerSocket SigningKey}

/-- The sockets after the entries of one of them were updated. -/
lemma get?_setAuth (auth : SocketAuth SigningKey) (c : Socket) :
    (w.setAuth client socket auth).sockets.get? c =
      if c = client then some { socket with auth := auth } else w.sockets.get? c := by
  rw [setAuth, OrderedMap.get?_set]

variable {c : Socket} {v : Transport SigningKey}

lemma passed_setAuth (auth : SocketAuth SigningKey) (h : w.Passed c) :
    (w.setAuth client socket auth).Passed c := by
  refine ⟨?_, h.2⟩
  rw [get?_setAuth]
  split_ifs
  · rfl
  · exact h.1

/-- An update of one socket that keeps its invariant. -/
lemma Inv.setAuth (h : w.Inv config)
    (hsocket : ServerSocket.Inv config w.Known (w.registry.isAuthenticating client)
      { socket with auth := auth })
    (hlistening : ∀ old, w.sockets.get? client = some old → old.listening = true → socket.listening = true) :
    (w.setAuth client socket auth).Inv config where
  sockets := fun c s hs => by
    rw [get?_setAuth] at hs
    split_ifs at hs with hc
    · cases hs
      rw [hc]
      exact hsocket
    · exact h.sockets c s hs
  listed := fun c hc => by
    obtain ⟨⟨s, hs, hl⟩, hphase⟩ := h.listed c hc
    refine ⟨?_, hphase⟩
    rw [get?_setAuth]
    split_ifs with heq
    · rw [heq] at hs
      exact ⟨_, rfl, hlistening s hs hl⟩
    · exact ⟨s, hs, hl⟩
  devices := h.devices
  tried := fun number request hrequest c hc => passed_setAuth _ (h.tried number request hrequest c hc)
  origins := fun correlationId c hc => passed_setAuth _ (h.origins correlationId c hc)

/-- A change of the registry that does not touch the phases and enters nobody new. -/
lemma Inv.registry (h : w.Inv config) {registry : ClientRegistry PayloadFilter}
    (hphase : ∀ c, registry.isAuthenticating c = w.registry.isAuthenticating c)
    (hlisted : ∀ c, registry.Listed c → w.registry.Listed c)
    (horigins : ∀ correlationId c, registry.getRequestOrigin correlationId = some c → w.Passed c) :
    Inv config { w with registry := registry } where
  sockets := fun c s hs => by
    rw [show ({ w with registry := registry } : Transport SigningKey).registry.isAuthenticating c =
      w.registry.isAuthenticating c from hphase c]
    exact h.sockets c s hs
  listed := fun c hc => by
    obtain ⟨hs, hp⟩ := h.listed c (hlisted c hc)
    exact ⟨hs, (hphase c).trans hp⟩
  devices := h.devices
  tried := fun number request hrequest c hc =>
    ⟨(h.tried number request hrequest c hc).1, (hphase c).trans (h.tried number request hrequest c hc).2⟩
  origins := fun correlationId c hc =>
    ⟨(horigins correlationId c hc).1, (hphase c).trans (horigins correlationId c hc).2⟩

/-! ### The selection of recipients -/

/-- The check before a write changes at most the sockets, and keeps the invariant. -/
lemma Inv.isReadyAndAuthenticated (h : w.Inv config)
    (hphase : w.registry.isAuthenticating client = false) :
    (w.isReadyAndAuthenticated client).2.Inv config ∧
      ∃ sockets, (w.isReadyAndAuthenticated client).2 = { w with sockets := sockets } := by
  rw [Transport.isReadyAndAuthenticated]
  split
  · exact ⟨h, w.sockets, rfl⟩
  · rename_i socket hget
    split_ifs with hopened
    · exact ⟨h, w.sockets, rfl⟩
    · dsimp only
      split_ifs
      · exact ⟨h, w.sockets, rfl⟩
      · refine ⟨?_, _, rfl⟩
        have hsocket := h.sockets client socket hget
        have hlistening : socket.listening = true := by
          by_contra hsilent
          exact hopened (by rw [hsocket.silent (by simpa using hsilent)]; nofun)
        exact h.setAuth
          (hsocket.closing hphase hlistening (by nofun)
            (hsocket.auth.isSocketAuthenticated w.e2e w.identities)
            fun hover => (SocketAuth.setup_isSocketAuthenticated _ _).trans hover)
          (fun _ _ _ => hlistening)

/-- Whether a client may receive a message: it can be written to, and its identity is allowed the subject
and the payload. -/
def mayReceive (w : Transport SigningKey) (client : Socket) (subject : Key) (payload : Option Json) :
    Bool :=
  (w.isReadyAndAuthenticated client).1 && w.isSubjectAllowedForClient client subject &&
    w.isPayloadAllowedForClient client subject payload

/-- Whether a client is selected as a recipient. -/
def eligible (w : Transport SigningKey) (subject : Key) (payload : Option Json)
    (exclude : Option Socket) (client : Socket) : Bool :=
  exclude ≠ some client && w.clientWantsMessage client subject payload &&
    w.mayReceive client subject payload

/-- What is kept while the recipients are selected. -/
structure Selecting (config : ServerConfig SigningKey) (w v : Transport SigningKey) : Prop where
  inv : v.Inv config
  frame : ∃ sockets, v = { w with sockets := sockets }
  /-- A client that can be written to stays as it is, and no other becomes one. -/
  ready : ∀ c, (w.isReadyAndAuthenticated c).1 = true → v.sockets.get? c = w.sockets.get? c
  unready : ∀ c, (w.isReadyAndAuthenticated c).1 = false → (v.isReadyAndAuthenticated c).1 = false

/-- The check before a write depends on the entry of the client alone. -/
lemma isReadyAndAuthenticated_congr (he2e : v.e2e = w.e2e) (hidentities : v.identities = w.identities)
    (hget : v.sockets.get? client = w.sockets.get? client) :
    (v.isReadyAndAuthenticated client).1 = (w.isReadyAndAuthenticated client).1 := by
  rw [Transport.isReadyAndAuthenticated, Transport.isReadyAndAuthenticated, hget, he2e, hidentities]
  cases w.sockets.get? client with
  | none => rfl
  | some socket =>
    dsimp only
    split_ifs
    · rfl
    · rfl
    · rfl

/-- Looking at a client changes the entry of no client that can be written to. -/
lemma ready_isReadyAndAuthenticated :
    ((w.isReadyAndAuthenticated c).1 = true →
      (w.isReadyAndAuthenticated client).2.sockets.get? c = w.sockets.get? c) ∧
    ((w.isReadyAndAuthenticated c).1 = false →
      ((w.isReadyAndAuthenticated client).2.isReadyAndAuthenticated c).1 = false) := by
  by_cases hsame : (w.isReadyAndAuthenticated client).2 = w
  · rw [hsame]
    exact ⟨fun _ => rfl, id⟩
  · -- The entry of the client has expired.
    obtain ⟨socket, auth, hfalse, hset⟩ : ∃ (socket : ServerSocket SigningKey)
        (auth : SocketAuth SigningKey),
        (w.isReadyAndAuthenticated client).1 = false ∧ (w.isReadyAndAuthenticated client).2 =
          w.setAuth client { socket with readyState := .closing } auth := by
      rw [Transport.isReadyAndAuthenticated] at hsame ⊢
      split at hsame
      · exact absurd rfl hsame
      · rename_i socket hget
        dsimp only at hsame ⊢
        split_ifs at hsame ⊢
        · exact absurd rfl hsame
        · exact absurd rfl hsame
        · exact ⟨socket, _, rfl, rfl⟩
    rw [hset]
    by_cases hc : c = client
    · rw [hc, hfalse]
      refine ⟨(by nofun), fun _ => ?_⟩
      rw [Transport.isReadyAndAuthenticated, get?_setAuth, if_pos rfl]
      rfl
    · have hget : (w.setAuth client { socket with readyState := .closing } auth).sockets.get? c =
          w.sockets.get? c := by rw [get?_setAuth, if_neg hc]
      refine ⟨fun _ => hget, fun hready => ?_⟩
      have hcongr := isReadyAndAuthenticated_congr (w := w)
        (v := w.setAuth client { socket with readyState := .closing } auth) rfl rfl hget
      exact hcongr.trans hready

/-- Whether a client may receive a message depends on its entry alone. -/
lemma mayReceive_congr (he2e : v.e2e = w.e2e) (hidentities : v.identities = w.identities)
    (hget : v.sockets.get? client = w.sockets.get? client) (subject : Key) (payload : Option Json) :
    v.mayReceive client subject payload = w.mayReceive client subject payload := by
  have hpeer : v.peerOf client = w.peerOf client := by
    rw [peerOf, peerOf, hget, he2e, hidentities]
  rw [mayReceive, mayReceive, isReadyAndAuthenticated_congr he2e hidentities hget,
    isSubjectAllowedForClient, isSubjectAllowedForClient, isPayloadAllowedForClient,
    isPayloadAllowedForClient, hpeer, hidentities]

/-- During the selection, the same clients may receive the message as before. -/
lemma Selecting.mayReceive (h : Selecting config w v) (c : Socket) (subject : Key) (payload : Option Json) :
    v.mayReceive c subject payload = w.mayReceive c subject payload := by
  obtain ⟨sockets, hsockets⟩ := h.frame
  cases hready : (w.isReadyAndAuthenticated c).1 with
  | true =>
    exact mayReceive_congr (by rw [hsockets]) (by rw [hsockets]) (h.ready c hready) subject payload
  | false =>
    rw [Transport.mayReceive, Transport.mayReceive, hready, h.unready c hready]
    rfl

/-- A client that can be written to after it was looked at could be written to before. -/
lemma isReadyAndAuthenticated_of_true (h : (w.isReadyAndAuthenticated client).1 = true) :
    (w.isReadyAndAuthenticated client).2 = w := by
  rw [Transport.isReadyAndAuthenticated] at h ⊢
  split at h
  · cases h
  · dsimp only at h ⊢
    split_ifs at h ⊢
    rfl

/-- Looking at one client keeps what the selection keeps, and takes the client exactly when it is
eligible. -/
lemma Selecting.considerClient {acc : List Socket × Transport SigningKey}
    (h : Selecting config w acc.2) (hlisted : w.registry.Listed client) (subject : Key)
    (payload : Option Json) (exclude : Option Socket) :
    Selecting config w (Transport.considerClient subject payload exclude acc client).2 ∧
      (Transport.considerClient subject payload exclude acc client).1 =
        acc.1 ++ [client].filter (w.eligible subject payload exclude) := by
  obtain ⟨sockets, hsockets⟩ := h.frame
  have hready : Selecting config w (acc.2.isReadyAndAuthenticated client).2 := by
    obtain ⟨hinv', sockets', hsockets'⟩ :=
      h.inv.isReadyAndAuthenticated (h.inv.listed client (by rw [hsockets]; exact hlisted)).2
    exact
      { inv := hinv'
        frame := ⟨sockets', by rw [hsockets', hsockets]⟩
        ready := fun c hc => by
          have hkept : (acc.2.isReadyAndAuthenticated c).1 = true := by
            rw [isReadyAndAuthenticated_congr (w := w) (by rw [hsockets]) (by rw [hsockets])
              (h.ready c hc)]
            exact hc
          exact (ready_isReadyAndAuthenticated.1 hkept).trans (h.ready c hc)
        unready := fun c hc => ready_isReadyAndAuthenticated.2 (h.unready c hc) }
  have hwants : (acc.2.isReadyAndAuthenticated client).2.clientWantsMessage client subject payload =
      w.clientWantsMessage client subject payload := by
    obtain ⟨sockets', hsockets'⟩ := hready.frame
    rw [hsockets']
    rfl
  -- The checks on the client are those of `eligible`.
  have heligible : exclude ≠ some client →
      ((acc.2.isReadyAndAuthenticated client).1 &&
        (acc.2.isReadyAndAuthenticated client).2.clientWantsMessage client subject payload &&
        (acc.2.isReadyAndAuthenticated client).2.isSubjectAllowedForClient client subject &&
        (acc.2.isReadyAndAuthenticated client).2.isPayloadAllowedForClient client subject payload) =
      w.eligible subject payload exclude client := by
    intro hexclude
    have hmay := h.mayReceive client subject payload
    rw [eligible, ← hmay, Transport.mayReceive, hwants]
    cases hok : (acc.2.isReadyAndAuthenticated client).1 with
    | true =>
      rw [isReadyAndAuthenticated_of_true hok]
      simp [hexclude, Bool.and_assoc]
    | false => simp
  rw [Transport.considerClient]
  by_cases hexclude : exclude = some client
  · rw [if_pos hexclude]
    refine ⟨h, ?_⟩
    simp [eligible, hexclude]
  · rw [if_neg hexclude]
    dsimp only
    rw [heligible hexclude]
    split_ifs with htaken
    · refine ⟨hready, ?_⟩
      rw [List.filter_cons_of_pos htaken]
      rfl
    · refine ⟨hready, ?_⟩
      rw [List.filter_cons_of_neg htaken]
      exact (List.append_nil _).symm

/-- **The selection of recipients** takes the clients that are eligible before it, and closes at most
sockets that cannot be written to. -/
lemma Inv.getInterestedClients (h : w.Inv config) (subject : Key) (payload : Option Json)
    (exclude : Option Socket) :
    Selecting config w (w.getInterestedClients subject payload exclude).2 ∧
      (w.getInterestedClients subject payload exclude).1 =
        w.registry.clients.filter (w.eligible subject payload exclude) := by
  rw [Transport.getInterestedClients]
  have hfold (clients : List Socket) (acc : List Socket × Transport SigningKey)
      (hlisted : ∀ c ∈ clients, w.registry.Listed c) (hacc : Selecting config w acc.2) :
      Selecting config w
          (clients.foldl (Transport.considerClient subject payload exclude) acc).2 ∧
        (clients.foldl (Transport.considerClient subject payload exclude) acc).1 =
          acc.1 ++ clients.filter (w.eligible subject payload exclude) := by
    induction clients generalizing acc with
    | nil => exact ⟨hacc, (List.append_nil _).symm⟩
    | cons c clients ih =>
      obtain ⟨hnext, hlist⟩ :=
        hacc.considerClient (hlisted c List.mem_cons_self) subject payload exclude
      obtain ⟨hlast, hall⟩ := ih _ (fun c' hc' => hlisted c' (List.mem_cons_of_mem _ hc')) hnext
      refine ⟨hlast, ?_⟩
      rw [List.foldl_cons, hall, hlist, List.append_assoc, ← List.filter_append]
      rfl
  have hstart : Selecting config w w := ⟨h, ⟨w.sockets, rfl⟩, fun _ _ => rfl, fun _ => id⟩
  obtain ⟨hlast, hall⟩ := hfold w.registry.clients ([], w) (fun c hc => .inl hc) hstart
  exact ⟨hlast, hall.trans (List.nil_append _)⟩

/-! ### Inbound frames -/

/-- A message that is routed keeps the invariant. -/
lemma Inv.routeMessage (h : w.Inv config) (hpassed : w.Passed client) (peer : Option String)
    (message : ClientMessage) : (w.routeMessage client peer message).1.Inv config := by
  cases message with
  | other => exact h
  | subscribe message | unsubscribe subjects =>
    rw [Transport.routeMessage]
    split_ifs
    · exact h
    · exact h.registry (fun _ => rfl) (fun _ => id) h.origins
  | event subject payload =>
    rw [Transport.routeMessage]
    split_ifs
    · exact h
    · exact (h.getInterestedClients _ _ _).1.inv
  | request subject payload correlationId timeout =>
    rw [Transport.routeMessage]
    split_ifs
    · exact h
    · have htrack : Inv config
          { w with registry := w.registry.trackRequestOrigin client correlationId timeout } := h.registry
        (fun c => by rw [ClientRegistry.trackRequestOrigin]; split_ifs <;> rfl)
        (fun c hc => by rw [ClientRegistry.trackRequestOrigin] at hc; split_ifs at hc <;> exact hc)
        (fun id c hc => by
          rw [ClientRegistry.getRequestOrigin_trackRequestOrigin] at hc
          split_ifs at hc
          · cases horigin : w.registry.getRequestOrigin correlationId with
            | none => rw [horigin] at hc; exact (Option.some.inj hc) ▸ hpassed
            | some origin =>
              rw [horigin] at hc
              exact h.origins correlationId c (horigin.trans hc)
          · exact h.origins id c hc)
      exact ⟨htrack.sockets, htrack.listed, htrack.devices, htrack.tried, htrack.origins⟩
  | broadcast subject payload =>
    rw [Transport.routeMessage]
    split_ifs
    · exact h
    · exact (h.getInterestedClients _ _ _).1.inv

/-- **An inbound frame** keeps the invariant: a socket that is refused is closing. -/
lemma Inv.receiveFrame (h : w.Inv config) (hget : w.sockets.get? client = some socket)
    (hlistening : socket.listening = true) (frame : Frame) :
    (w.receiveFrame client socket frame).1.Inv config := by
  have hsocket := h.sockets client socket hget
  obtain ⟨hauth, -, hproceeds⟩ := hsocket.auth.handleAuthMessage w.e2e frame.authMessage
  have hhandled := hsocket.proceeds hauth hproceeds
  have hkept : (w.setAuth client socket
      (socket.auth.handleAuthMessage w.e2e frame.authMessage).2).Inv config :=
    h.setAuth hhandled fun _ _ _ => hlistening
  rw [Transport.receiveFrame]
  dsimp only
  split_ifs with hconsumed hphase hchecked
  · exact hkept
  · exact hkept
  · refine h.setAuth ?_ fun _ _ _ => hlistening
    exact hsocket.closing (by simpa using hphase) hlistening (ServerSocket.close_ne_opened _)
      (hauth.isSocketAuthenticated w.e2e w.identities).cleanupSocket.1
      fun hover => SocketAuth.setup_cleanupSocket
        ((SocketAuth.setup_isSocketAuthenticated _ _).trans (hproceeds.ended.mpr hover))
  · rw [SocketAuth.isSocketAuthenticated_of_true (by simpa using hchecked)]
    have hpassed : w.Passed client := ⟨by rw [hget]; rfl, by simpa using hphase⟩
    exact hkept.routeMessage (passed_setAuth _ hpassed) _ _

/-! ### Connections -/

/-- A new socket is in the authentication phase. -/
lemma Inv.connect (h : w.Inv config) {nonce : String} {sent : Bool}
    (hw' : w.connect client nonce sent = some w') : w'.Inv config := by
  rw [Transport.connect] at hw'
  split_ifs at hw' with hhas
  cases hw'
  have hphase (c : Socket) (hc : c ≠ client) :
      (w.registry.addAuthenticating client).isAuthenticating c = w.registry.isAuthenticating c := by
    rw [ClientRegistry.isAuthenticating, ClientRegistry.isAuthenticating,
      ClientRegistry.addAuthenticating]
    simp [hc]
  have hpassed (c : Socket) (hc : w.Passed c) : Passed
      { w with
        registry := w.registry.addAuthenticating client
        sockets := w.sockets.set client
          { auth := SocketAuth.authenticateServer w.e2e nonce sent
            readyState := .opened
            listening := true } } c := by
    have hne : c ≠ client := by
      rintro rfl
      exact hhas (OrderedMap.has_iff.mpr (Option.isSome_iff_exists.mp hc.1))
    refine ⟨?_, (hphase c hne).trans hc.2⟩
    rw [OrderedMap.get?_set_of_ne _ _ hne]
    exact hc.1
  exact
    { sockets := fun c s hs => by
        rw [OrderedMap.get?_set] at hs
        split_ifs at hs with hc
        · cases hs
          have hin : (w.registry.addAuthenticating client).isAuthenticating c = true := by
            rw [ClientRegistry.isAuthenticating, ClientRegistry.addAuthenticating]
            simp [hc]
          rw [hin]
          exact
            { auth := SocketAuth.inv_authenticateServer w.e2e nonce sent
              waiting := fun _ _ => rfl
              succeeded := fun _ hsetup => by
                cases sent <;> cases hsetup
              opened := fun _ hfalse => by cases hfalse
              silent := fun hsilent => by cases hsilent }
        · rw [hphase c hc]
          exact h.sockets c s hs
      listed := fun c hc => by
        obtain ⟨⟨s, hs, hlistening⟩, hp⟩ := h.listed c hc
        have hne : c ≠ client := by
          rintro rfl
          exact hhas (OrderedMap.has_iff.mpr ⟨s, hs⟩)
        refine ⟨⟨s, ?_, hlistening⟩, (hphase c hne).trans hp⟩
        rw [OrderedMap.get?_set_of_ne _ _ hne]
        exact hs
      devices := h.devices
      tried := fun number request hrequest c hc => hpassed c (h.tried number request hrequest c hc)
      origins := fun correlationId c hc => hpassed c (h.origins correlationId c hc) }

/-- The phases after one socket has left the authentication phase. -/
lemma isAuthenticating_removeAuthenticating (r : ClientRegistry PayloadFilter) (client c : Socket) :
    (r.removeAuthenticating client).isAuthenticating c =
      if c = client then false else r.isAuthenticating c := by
  rw [ClientRegistry.isAuthenticating, ClientRegistry.isAuthenticating,
    ClientRegistry.removeAuthenticating]
  split_ifs with hc
  · simp [hc]
  · simp [hc]

variable {r : ClientRegistry PayloadFilter}

/-- The clients after one was added are the others and that one. -/
lemma listed_addClient {client : Socket} {connectionId : Option String}
    (h : (r.addClient client connectionId).Listed c) :
    r.Listed c ∨ c = client := by
  rcases h with h | ⟨id, h⟩
  · unfold ClientRegistry.addClient at h
    split_ifs at h with hmem
    · exact .inl (.inl h)
    · rcases List.mem_append.mp h with h | h
      · exact .inl (.inl h)
      · exact .inr (List.mem_singleton.mp h)
  · cases connectionId with
    | none => exact .inl (.inr ⟨id, h⟩)
    | some connectionId =>
      rw [ClientRegistry.addClient, OrderedMap.get?_set] at h
      split_ifs at h with hid
      · exact .inr (Option.some.inj h).symm
      · exact .inl (.inr ⟨id, h⟩)

/-- **The setup of a connection** leaves the authentication phase with an admission, and lists an open
socket; a failed one closes the socket. -/
lemma Inv.continueSetup (h : w.Inv config) (hget : w.sockets.get? client = some socket)
    (hw' : w.continueSetup client socket = some w') : w'.Inv config := by
  have hsocket := h.sockets client socket hget
  rw [Transport.continueSetup] at hw'
  split at hw'
  · cases hw'
  · cases hw'
  · rename_i hsetup
    have hpassed (c : Socket) (hc : w.Passed c) : Passed
        { w.setAuth client socket { socket.auth with setup := .over } with
          registry := w.registry.removeAuthenticating client } c := by
      refine ⟨(passed_setAuth _ hc).1, ?_⟩
      rw [isAuthenticating_removeAuthenticating]
      split_ifs
      · rfl
      · exact hc.2
    have hleft : Inv config { w.setAuth client socket { socket.auth with setup := .over } with
        registry := w.registry.removeAuthenticating client } :=
      { sockets := fun c s hs => by
          rw [get?_setAuth] at hs
          rw [isAuthenticating_removeAuthenticating]
          split_ifs at hs ⊢ with hc
          · cases hs
            exact
              { auth := hsocket.auth.bookkeeping _ _ _ _
                waiting := fun _ hne => absurd rfl hne
                succeeded := fun _ hne => by cases hne
                opened := fun hlistening _ _ => hsocket.succeeded hlistening hsetup
                silent := hsocket.silent }
          · exact h.sockets c s hs
        listed := fun c hc => by
          obtain ⟨⟨s, hs, hlistening⟩, hp⟩ := h.listed c hc
          rw [get?_setAuth, isAuthenticating_removeAuthenticating]
          split_ifs with heq
          · rw [heq, hget] at hs
            cases hs
            exact ⟨⟨_, rfl, hlistening⟩, rfl⟩
          · exact ⟨⟨s, hs, hlistening⟩, hp⟩
        devices := h.devices
        tried := fun number request hrequest c hc => hpassed c (h.tried number request hrequest c hc)
        origins := fun correlationId c hc => hpassed c (h.origins correlationId c hc) }
    split_ifs at hw' with hopened
    · cases hw'
      exact hleft
    · cases hw'
      have hopened : socket.readyState = .opened := not_not.mp hopened
      have hlistening : socket.listening = true := by
        by_contra hl
        rw [hsocket.silent (by simpa using hl)] at hopened
        cases hopened
      exact
        { sockets := hleft.sockets
          listed := fun c hc => by
            rcases listed_addClient hc with hc | rfl
            · exact hleft.listed c hc
            · have hset : (w.setAuth c socket { socket.auth with setup := .over }).sockets.get? c = _ :=
                (get?_setAuth _ c).trans (if_pos rfl)
              exact ⟨⟨_, hset, hlistening⟩,
                (isAuthenticating_removeAuthenticating w.registry c c).trans (if_pos rfl)⟩
          devices := hleft.devices
          tried := hleft.tried
          origins := hleft.origins }
  · cases hw'
    refine h.setAuth ?_ ?_
    · have hclose := hsocket.close
      exact
        { auth := hsocket.auth.bookkeeping _ _ _ _
          waiting := fun _ hne => absurd rfl hne
          succeeded := fun _ hne => by cases hne
          opened := hclose.opened
          silent := hclose.silent }
    · intro old hold hlistening
      rw [hget] at hold
      cases hold
      exact hlistening

/-- The clients after one was removed are others. -/
lemma listed_removeClient {client : Socket} (h : (r.removeClient client).1.Listed c) :
    r.Listed c ∧ c ≠ client := by
  rw [ClientRegistry.removeClient] at h
  rcases h with h | ⟨id, h⟩
  · obtain ⟨hmem, hne⟩ := List.mem_filter.mp h
    exact ⟨.inl hmem, by simpa using hne⟩
  · rw [OrderedMap.get?_foldl_delete_filter] at h
    obtain ⟨hget, hne⟩ := Option.filter_eq_some_iff.mp h
    exact ⟨.inr ⟨id, hget⟩, by simpa using hne⟩

/-- **The close event** removes the socket from the registry. -/
lemma Inv.closeListener (h : w.Inv config) (hget : w.sockets.get? client = some socket) :
    (w.closeListener client socket).Inv config := by
  have hsocket := h.sockets client socket hget
  have hphase (c : Socket) (hc : c ≠ client) :
      (w.registry.removeClient client).1.isAuthenticating c = w.registry.isAuthenticating c := by
    rw [ClientRegistry.isAuthenticating, ClientRegistry.isAuthenticating, ClientRegistry.removeClient]
    simp [hc]
  have hpassed (c : Socket) (hc : w.Passed c) : Passed
      { w.setAuth client { socket with readyState := .closed, listening := false }
          socket.auth.cleanupSocket with
        registry := (w.registry.removeClient client).1 } c := by
    refine ⟨(passed_setAuth _ hc).1, ?_⟩
    by_cases heq : c = client
    · rw [heq, ClientRegistry.isAuthenticating, ClientRegistry.removeClient]
      simp
    · exact (hphase c heq).trans hc.2
  rw [Transport.closeListener]
  exact
    { sockets := fun c s hs => by
        rw [get?_setAuth] at hs
        split_ifs at hs with hc
        · cases hs
          exact
            { auth := hsocket.auth.cleanupSocket.1
              waiting := fun hlistening => by cases hlistening
              succeeded := fun hlistening => by cases hlistening
              opened := fun hlistening => by cases hlistening
              silent := fun _ => rfl }
        · rw [hphase c hc]
          exact h.sockets c s hs
      listed := fun c hc => by
        obtain ⟨hc, hne⟩ := listed_removeClient hc
        obtain ⟨⟨s, hs, hlistening⟩, hp⟩ := h.listed c hc
        rw [get?_setAuth, if_neg hne]
        exact ⟨⟨s, hs, hlistening⟩, (hphase c hne).trans hp⟩
      devices := h.devices
      tried := fun number request hrequest c hc => hpassed c (h.tried number request hrequest c hc)
      origins := fun correlationId c hc =>
        hpassed c (h.origins correlationId c (ClientRegistry.getRequestOrigin_removeClient hc)) }

/-! ### Requests to the clients -/

/-- Trying the clients of a request changes the requests only. -/
lemma Inv.tryClients (h : w.Inv config) {number : ℕ} {request : OutboundRequest}
    (hremaining : ∀ c ∈ request.remaining, w.Passed c) (throws : Socket → Bool) :
    (w.tryClients number request throws).1.Inv config := by
  rw [Transport.tryClients]
  split
  · exact
      { sockets := h.sockets
        listed := h.listed
        devices := h.devices
        origins := h.origins
        tried := fun n r hr => by
          rw [OrderedMap.get?_delete] at hr
          split_ifs at hr
          exact h.tried n r hr }
  · rename_i target remaining hdrop
    exact
      { sockets := h.sockets
        listed := h.listed
        devices := h.devices
        origins := h.origins
        tried := fun n r hr c hc => by
          rw [OrderedMap.get?_set] at hr
          split_ifs at hr
          · cases hr
            refine hremaining c (List.dropWhile_subset (p := throws) ?_)
            rw [hdrop]
            exact List.mem_cons_of_mem _ hc
          · exact h.tried n r hr c hc }

lemma Inv.routeRequestToClients (h : w.Inv config) (source : Option Socket) (correlationId : String)
    (subject : Key) (payload : Option Json) (throws : Socket → Bool) :
    (w.routeRequestToClients source correlationId subject payload throws).1.Inv config := by
  rw [Transport.routeRequestToClients, getInterestedRequestClients]
  obtain ⟨hselecting, hselected⟩ := h.getInterestedClients subject payload
    (w.registry.getRequestOrigin correlationId)
  have hnext : Inv config { (w.getInterestedClients subject payload
      (w.registry.getRequestOrigin correlationId)).2 with nextRequest := w.nextRequest + 1 } :=
    ⟨hselecting.inv.sockets, hselecting.inv.listed, hselecting.inv.devices, hselecting.inv.tried,
      hselecting.inv.origins⟩
  refine hnext.tryClients (fun c hc => ?_) throws
  have hclient := (List.mem_filter.mp hc).1
  rw [hselected] at hclient
  obtain ⟨sockets, hsockets⟩ := hselecting.frame
  obtain ⟨⟨s, hs, -⟩, hphase⟩ := hselecting.inv.listed c (by
    rw [hsockets]
    exact .inl (List.mem_filter.mp hclient).1)
  exact ⟨by rw [hs]; rfl, hphase⟩

/-! ### Responses -/

/-- A response route that ends lists nobody new. -/
lemma Inv.cancelRequestOrigin (h : w.Inv config) (correlationId : String) :
    Inv config { w with registry := w.registry.cancelRequestOrigin correlationId } :=
  h.registry (fun _ => rfl) (fun _ => id) fun id c hc => by
    rw [ClientRegistry.getRequestOrigin_cancelRequestOrigin] at hc
    split_ifs at hc
    exact h.origins id c hc

lemma Inv.respond (h : w.Inv config) (correlationId : String) :
    (w.respond correlationId).Inv config := by
  rw [Transport.respond]
  split
  · exact h
  · rename_i client horigin
    exact ((h.cancelRequestOrigin correlationId).isReadyAndAuthenticated
      (h.origins correlationId client horigin).2).1

/-! ### Every step -/

/-- A handshake goes on. -/
lemma Inv.proceed (h : w.Inv config) (hget : w.sockets.get? client = some socket)
    (hauth : auth.Inv config.crypto config.secret w.Known) (hproceeds : socket.auth.Proceeds auth) :
    (w.setAuth client socket auth).Inv config :=
  h.setAuth ((h.sockets client socket hget).proceeds hauth hproceeds) fun old hold hl => by
    cases hget.symm.trans hold
    exact hl

/-- The key of a device is known from then on. -/
lemma Inv.setDevice (h : w.Inv config) (deviceId : String) (key : SigningKey) :
    Inv config { w with
      deviceKeys := w.deviceKeys.set deviceId key
      registeredKeys := w.registeredKeys ++ [(deviceId, key)] } where
  sockets := fun c s hs => (h.sockets c s hs).mono fun _ _ hk => List.mem_append_left _ hk
  listed := h.listed
  tried := h.tried
  origins := h.origins
  devices := fun d k hk => by
    rw [OrderedMap.get?_set] at hk
    split_ifs at hk with hd
    · cases hk
      rw [hd]
      exact List.mem_append_right _ (List.mem_singleton_self _)
    · exact List.mem_append_left _ (h.devices d k hk)

/-- A device is forgotten. -/
lemma Inv.forgetDevice (h : w.Inv config) (deviceId : String) :
    Inv config { w with deviceKeys := w.deviceKeys.delete deviceId } where
  sockets := h.sockets
  listed := h.listed
  tried := h.tried
  origins := h.origins
  devices := fun d k hk => by
    rw [OrderedMap.get?_delete] at hk
    split_ifs at hk
    exact h.devices d k hk

/-- **The invariant is kept by every step.** -/
lemma Inv.step (h : w.Inv config) {a : TransportAction SigningKey} {events : List TransportEvent}
    (hstep : w.step config a = some (w', events)) : w'.Inv config := by
  cases a with
  | connect client nonce sent =>
    obtain ⟨w₁, hw₁, heq⟩ := Option.map_eq_some_iff.mp hstep
    cases heq
    exact h.connect hw₁
  | frame client frame =>
    obtain ⟨socket, hget, hstep⟩ := Option.bind_eq_some_iff.mp hstep
    split_ifs at hstep with hlistening
    have heq := Option.some.inj hstep
    rw [show w' = (w.receiveFrame client socket frame).1 by rw [heq]]
    exact h.receiveFrame hget hlistening frame
  | timeoutHmac client =>
    obtain ⟨socket, hget, heq⟩ := Option.map_eq_some_iff.mp hstep
    cases heq
    obtain ⟨hauth, hproceeds⟩ := (h.sockets client socket hget).auth.timeoutHmac
    exact h.proceed hget hauth hproceeds
  | timeoutE2E client =>
    obtain ⟨socket, hget, heq⟩ := Option.map_eq_some_iff.mp hstep
    cases heq
    obtain ⟨hauth, hproceeds⟩ := (h.sockets client socket hget).auth.timeoutE2E
    exact h.proceed hget hauth hproceeds
  | continueHmac client sent connectionId =>
    obtain ⟨socket, hget, heq⟩ := Option.map_eq_some_iff.mp hstep
    cases heq
    obtain ⟨hauth, hproceeds⟩ := (h.sockets client socket hget).auth.continueHmac w.identities
      (canSend socket sent) connectionId
    exact h.proceed hget hauth hproceeds
  | continueE2E client ok =>
    obtain ⟨socket, hget, heq⟩ := Option.map_eq_some_iff.mp hstep
    cases heq
    obtain ⟨hauth, hproceeds⟩ := (h.sockets client socket hget).auth.continueE2E (e2eCallOk socket ok)
      (w.foundKey socket) fun deviceId _ _ key hstage hfound => by
        rw [foundKey, hstage] at hfound
        exact h.devices deviceId key hfound
    exact h.proceed hget hauth hproceeds
  | continueSetup client =>
    obtain ⟨socket, hget, hstep⟩ := Option.bind_eq_some_iff.mp hstep
    obtain ⟨w₁, hw₁, heq⟩ := Option.map_eq_some_iff.mp hstep
    cases heq
    exact h.continueSetup hget hw₁
  | close client =>
    obtain ⟨socket, hget, heq⟩ := Option.map_eq_some_iff.mp hstep
    cases heq
    refine h.setAuth (h.sockets client socket hget).close fun old hold hl => ?_
    rw [hget] at hold
    exact (Option.some.inj hold) ▸ hl
  | closeEvent client =>
    obtain ⟨socket, hget, hstep⟩ := Option.bind_eq_some_iff.mp hstep
    split_ifs at hstep
    cases hstep
    exact h.closeListener hget
  | setE2EAuth =>
    cases hstep
    exact ⟨h.sockets, h.listed, h.devices, h.tried, h.origins⟩
  | registerIdentity identityId secret options | rotateIdentity identityId newSecret =>
    obtain ⟨identities, -, heq⟩ := Option.map_eq_some_iff.mp hstep
    cases heq
    exact ⟨h.sockets, h.listed, h.devices, h.tried, h.origins⟩
  | cleanupIdentity identityId number =>
    cases hstep
    exact ⟨h.sockets, h.listed, h.devices, h.tried, h.origins⟩
  | setDevice deviceId key =>
    cases hstep
    exact h.setDevice deviceId key
  | forgetDevice deviceId =>
    cases hstep
    exact h.forgetDevice deviceId
  | expireRequestOrigin correlationId =>
    obtain ⟨registry, hregistry, heq⟩ := Option.map_eq_some_iff.mp hstep
    cases heq
    rw [ClientRegistry.expireRequestOrigin_eq hregistry]
    exact h.cancelRequestOrigin correlationId
  | respond correlationId =>
    cases hstep
    exact h.respond correlationId
  | cancelRequestOrigin correlationId =>
    cases hstep
    exact h.cancelRequestOrigin correlationId
  | send broadcast subject payload =>
    cases hstep
    exact (h.getInterestedClients _ _ _).1.inv
  | sendToConnection connectionId subject payload =>
    cases hstep
    rw [getClientByConnectionId]
    split
    · exact h
    · rename_i client hclient
      exact (h.isReadyAndAuthenticated (h.listed client (.inr ⟨connectionId, hclient⟩)).2).1
  | sendRequest correlationId subject payload throws =>
    have heq := Option.some.inj hstep
    rw [show w' = (w.routeRequestToClients none correlationId subject payload throws).1 by rw [heq]]
    exact h.routeRequestToClients _ _ _ _ _
  | forwardRequest index throws =>
    obtain ⟨request, -, heq⟩ := Option.map_eq_some_iff.mp hstep
    rw [show w' = (w.routeRequestToClients (some request.socket) request.correlationId
      request.subject request.payload throws).1 by rw [heq]]
    exact h.routeRequestToClients _ _ _ _ _
  | retryRequest number throws =>
    obtain ⟨request, hrequest, heq⟩ := Option.map_eq_some_iff.mp hstep
    rw [show w' = (w.tryClients number request throws).1 by rw [heq]]
    exact h.tryClients (h.tried number request hrequest) throws

/-- A server without sockets. -/
lemma inv_initial (e2e : Bool) : (initial e2e : Transport SigningKey).Inv config where
  sockets := fun _ _ hs => by cases hs
  listed := fun _ hc => by
    rcases hc with hc | ⟨_, hc⟩
    · cases hc
    · cases hc
  devices := fun _ _ hk => by cases hk
  tried := fun _ _ hr => by cases hr
  origins := fun _ _ hc => by cases hc

end Transport

/-- The states of the transport, whatever happens. -/
def TransportReach (config : ServerConfig SigningKey) : Transport SigningKey → Prop :=
  Reach (fun w => ∃ e2e, w = Transport.initial e2e)
    (fun w a => (w.step config a).map Prod.fst) fun _ _ => True

/-- **The invariant holds in every reachable state.** -/
lemma TransportReach.inv {w : Transport SigningKey} (h : TransportReach config w) : w.Inv config := by
  refine Reach.invariant (Transport.Inv config) ?_ ?_ h
  · rintro w ⟨e2e, rfl⟩
    exact Transport.inv_initial e2e
  · intro w a w' hinv _ hstep
    obtain ⟨⟨w₁, events⟩, hw₁, rfl⟩ := Option.map_eq_some_iff.mp hstep
    exact hinv.step hw₁

end Makaio.Server
