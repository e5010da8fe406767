import Makaio.Server.ClientRegistry
import Makaio.Server.Handshake

set_option autoImplicit false

/-!
# The WebSocket server transport

The server as a machine (`server-transport.ts`, `server-client-setup.ts`, `server-message-handler.ts`):
sockets connect, their handshakes go on stage by stage, frames arrive and are gated and routed, and the
bus sends events, requests and broadcasts to the clients.  What happens between two awaits is one step.

## Main definitions

* `Transport` — the sockets, the identities, the client registry and the requests in
  flight.
* `getInterestedClients`, `getInterestedRequestClients`, `getClientByConnectionId` — the recipients the
  registry selects; a socket whose authentication has expired is closed on the way.
* `routeMessage`, `receiveFrame` — an inbound frame.
* `Transport.step` — one step, with what an observer sees.
-/

namespace Makaio.Server

open Foundations Bus

/-- The ready states of a WebSocket after it was opened. -/
inductive ReadyState
  /-- `readyState === 1` -/
  | opened
  | closing
  | closed
  deriving DecidableEq

/-- `socket.close()` -/
def ReadyState.close : ReadyState → ReadyState
  | opened => closing
  | readyState => readyState

/-- A socket with its authentication and its listeners. -/
structure ServerSocket (SigningKey : Type) where
  auth : SocketAuth SigningKey
  readyState : ReadyState
  /-- Whether the message and close listeners are attached. -/
  listening : Bool

/-- The messages whose recipients are restricted. -/
inductive MessageKind
  | event
  | request
  | broadcast

/-- A message of a client, with full subjects. -/
inductive ClientMessage
  | subscribe (message : ClientSubscribeMessage PayloadFilter)
  | unsubscribe (subjects : List Key)
  | event (subject : Key) (payload : Option Json)
  | request (subject : Key) (payload : Option Json) (correlationId : String) (timeout : ℤ)
  | broadcast (subject : Key) (payload : Option Json) (correlationId : String)
  /-- responses, broadcast responses, heartbeats and unknown types -/
  | other

/-- An inbound frame. -/
inductive Frame
  | auth (message : SocketAuth.AuthMessage)
  | application (message : ClientMessage)

/-- A frame as the authentication sees it. -/
def Frame.authMessage : Frame → SocketAuth.AuthMessage
  | auth message => message
  | application _ => .application

/-- A frame as the routing sees it. -/
def Frame.clientMessage : Frame → ClientMessage
  | auth _ => .other
  | application message => message

/-- A client's request that was handed to the bus handlers. -/
structure ReceivedRequest where
  socket : Socket
  correlationId : String
  subject : Key
  payload : Option Json

/-- A request the server tries on one client after another: the socket it came from, if it is a
client's, and the clients that have not been tried. -/
structure OutboundRequest where
  source : Option Socket
  subject : Key
  payload : Option Json
  remaining : List Socket

/-- The state of the transport. -/
structure Transport (SigningKey : Type) where
  sockets : OrderedMap Socket (ServerSocket SigningKey)
  /-- Whether the dispatcher has an E2E strategy. -/
  e2e : Bool
  identities : IdentitySecrets
  /-- What the E2E strategy finds when it looks up the key of a device. -/
  deviceKeys : OrderedMap String SigningKey
  /-- Every key that a device was ever registered with. -/
  registeredKeys : List (String × SigningKey)
  registry : ClientRegistry PayloadFilter
  received : List ReceivedRequest
  requests : OrderedMap ℕ OutboundRequest
  nextRequest : ℕ

/-- What an observer sees. -/
inductive TransportEvent
  /-- a frame of the socket reaches `routeMessage` -/
  | routed (socket : Socket)
  /-- a message of the socket reaches the handlers or other clients -/
  | reached (socket : Socket) (kind : MessageKind) (subject : Key)
  /-- a frame is written to a client -/
  | written (client : Socket) (kind : MessageKind) (subject : Key) (payload : Option Json)
      (source : Option Socket)

/-- The configuration of a server: its cryptography and its global secret. -/
structure ServerConfig (SigningKey : Type) where
  crypto : Crypto SigningKey
  secret : String

namespace Transport

variable {SigningKey : Type}

/-- A server without sockets and identities. -/
def initial (e2e : Bool) : Transport SigningKey where
  sockets := .empty
  e2e := e2e
  identities := .empty
  deviceKeys := .empty
  registeredKeys := []
  registry := .empty
  received := []
  requests := .empty
  nextRequest := 0

variable (w : Transport SigningKey)
variable (client : Socket)

/-- Update the authentication of a socket. -/
def setAuth (socket : ServerSocket SigningKey) (auth : SocketAuth SigningKey) : Transport SigningKey :=
  { w with sockets := w.sockets.set client { socket with auth := auth } }

/-! ### The recipients -/

/-- Check whether a client can receive an outbound frame at this instant; a socket whose authentication
has expired is closed. -/
def isReadyAndAuthenticated :
    Bool × Transport SigningKey :=
  match w.sockets.get? client with
  | none => (false, w)
  | some socket =>
    if socket.readyState ≠ .opened then (false, w)
    else
      let checked := socket.auth.isSocketAuthenticated w.e2e w.identities
      if checked.1 then (true, w)
      else (false, w.setAuth client { socket with readyState := .closing } checked.2)

/-- The authenticated peer of a client, as the receive context has it. -/
def peerOf : Option String :=
  (w.sockets.get? client).bind fun socket => socket.auth.receivePeer w.e2e w.identities

variable (subject : Key)

/-- Check if a client wants to receive a message based on subscriptions and filters. -/
def shouldReceiveMessage (payload : Option Json) (subscriptions : List Key)
    (filters : List (Key × PayloadFilter)) : Bool :=
  (subscriptions = [] || subscriptions.any fun pattern => matchesSubscription subject pattern) &&
  (payload.isNone || filters.all fun filter =>
    !(filter.1 = subject || matchesSubscription subject filter.1) || matchesFilter payload filter.2)

/-- Check whether a client wants to receive a message given its subscriptions and filters. -/
def clientWantsMessage (subject : Key) (payload : Option Json) : Bool :=
  shouldReceiveMessage subject payload ((w.registry.clientSubscriptions.get? client).getD [])
    ((w.registry.clientFilters.get? client).map OrderedMap.entries |>.getD [])

/-- Check whether the outgoing subject is allowed for a client. -/
def isSubjectAllowedForClient (subject : Key) : Bool :=
  match (w.peerOf client).bind w.identities.allowedSubscriptionSubjects with
  | none => true
  | some allowed => allowed.any fun pattern => matchesSubscription subject pattern

/-- Check server-owned recipient policy after advertised-subscription matching. -/
def isPayloadAllowedForClient (subject : Key) (payload : Option Json) : Bool :=
  match ((w.peerOf client).bind w.identities.requiredSubscriptionFilters).bind fun filters =>
    filters.get? subject with
  | none => true
  | some requiredFilter => matchesFilter payload requiredFilter

/-- Look at one client in the selection of recipients. -/
def considerClient (payload : Option Json) (exclude : Option Socket)
    (acc : List Socket × Transport SigningKey) (client : Socket) :
    List Socket × Transport SigningKey :=
  if exclude = some client then acc
  else
    let ready := acc.2.isReadyAndAuthenticated client
    if ready.1 && ready.2.clientWantsMessage client subject payload &&
        ready.2.isSubjectAllowedForClient client subject &&
        ready.2.isPayloadAllowedForClient client subject payload then
      (acc.1 ++ [client], ready.2)
    else (acc.1, ready.2)

/-- Collect all connected clients interested in a given subject and payload. -/
def getInterestedClients (payload : Option Json) (exclude : Option Socket) :
    List Socket × Transport SigningKey :=
  w.registry.clients.foldl (considerClient subject payload exclude) ([], w)

/-- Whether a client advertised a request handler for a subject. -/
def advertisesHandler (subject : Key) : Bool :=
  match w.registry.clientSubscriptionState.get? client with
  | none => false
  | some subscriptions => subscriptions.entries.any fun e =>
      e.2.priorities ≠ [] && matchesSubscription subject e.1

/-- Collect clients that advertised a matching request handler. -/
def getInterestedRequestClients (payload : Option Json) (exclude : Option Socket) :
    List Socket × Transport SigningKey :=
  let interested := w.getInterestedClients subject payload exclude
  (interested.1.filter fun client => w.advertisesHandler client subject, interested.2)

/-- Return the connected socket for a server-generated connection id. -/
def getClientByConnectionId (connectionId : String) :
    Option Socket × Transport SigningKey :=
  match w.registry.clientsByConnectionId.get? connectionId with
  | none => (none, w)
  | some client =>
    let ready := w.isReadyAndAuthenticated client
    (if ready.1 then some client else none, ready.2)

/-- Find the client that waits for a response, and consume its route. -/
def respond (correlationId : String) : Transport SigningKey :=
  match w.registry.getRequestOrigin correlationId with
  | none => w
  | some client =>
    ({ w with registry := w.registry.cancelRequestOrigin correlationId }.isReadyAndAuthenticated
      client).2

/-- Write one frame to each of the selected clients. -/
def writeAll (selected : List Socket × Transport SigningKey) (kind : MessageKind) (subject : Key)
    (payload : Option Json) : Transport SigningKey × List TransportEvent :=
  (selected.2, selected.1.map fun client => .written client kind subject payload none)

/-! ### Inbound frames -/

/-- Filter subscription subjects against what a restricted identity may subscribe to: a wildcard pattern
passes only verbatim, any other subject when some allowed pattern matches it. -/
def subscriptionAllowed (allowed : Option (List Key)) (subject : Key) : Bool :=
  match allowed with
  | none => true
  | some allowed =>
    if endsWith subject ['*'] then subject ∈ allowed
    else allowed.any fun pattern => matchesSubscription subject pattern

/-- The entries of a map whose key passes. -/
def filterKeys {V : Type} (m : OrderedMap Key V) (p : Key → Bool) : OrderedMap Key V :=
  (m.entries.filter fun e => !p e.1).foldl (fun m e => m.delete e.1) m

/-- Whether a message of a restricted peer is rejected for its subject. -/
def rejectDisallowedSubject (peer : Option String) (subject : Key) : Bool :=
  match peer.bind w.identities.allowedMessageSubjects with
  | none => false
  | some allowed => subject ∉ allowed

/-- Route a parsed, authenticated bus message to the appropriate handler. -/
def routeMessage (peer : Option String) :
    ClientMessage → Transport SigningKey × List TransportEvent
  | .other => (w, [])
  | .subscribe message =>
    let allowed := subscriptionAllowed (peer.bind w.identities.allowedSubscriptionSubjects)
    let subjects := filterKeys message.subjects allowed
    if subjects.entries = [] then (w, [])
    else ({ w with registry := (w.registry.handleSubscribeMessage client
          { message with subjects := subjects }).1 }, [])
  | .unsubscribe subjects =>
    let subjects := subjects.filter (subscriptionAllowed (peer.bind w.identities.allowedSubscriptionSubjects))
    if subjects = [] then (w, [])
    else ({ w with registry := (w.registry.handleUnsubscribeMessage client subjects).1 }, [])
  | .event subject payload =>
    if w.rejectDisallowedSubject peer subject then (w, [])
    else
      let written := writeAll (w.getInterestedClients subject payload (some client)) .event subject
        payload
      (written.1, .reached client .event subject :: written.2)
  | .request subject payload correlationId timeout =>
    if w.rejectDisallowedSubject peer subject then (w, [])
    else
      ({ w with
          registry := w.registry.trackRequestOrigin client correlationId timeout
          received := w.received ++ [⟨client, correlationId, subject, payload⟩] },
        [.reached client .request subject])
  | .broadcast subject payload _ =>
    if w.rejectDisallowedSubject peer subject then (w, [])
    else
      let written := writeAll (w.getInterestedClients subject payload (some client)) .broadcast
        subject payload
      (written.1, .reached client .broadcast subject :: written.2)

/-- The inbound message handler of a socket. -/
def receiveFrame (socket : ServerSocket SigningKey) (frame : Frame) :
    Transport SigningKey × List TransportEvent :=
  -- Auth messages go to the auth handler.
  let handled := socket.auth.handleAuthMessage w.e2e frame.authMessage
  if handled.1 then (w.setAuth client socket handled.2, [])
  -- Other messages are dropped during the authentication phase.
  else if w.registry.isAuthenticating client then (w.setAuth client socket handled.2, [])
  else
    let checked := handled.2.isSocketAuthenticated w.e2e w.identities
    if !checked.1 then
      (w.setAuth client { socket with readyState := socket.readyState.close } checked.2.cleanupSocket,
        [])
    else
      let routed := routeMessage (w.setAuth client socket checked.2) client
        (checked.2.receivePeer w.e2e w.identities) frame.clientMessage
      (routed.1, .routed client :: routed.2)

/-! ### Connections -/

/-- Set up a newly connected client socket: it is marked as authenticating before its listeners are
attached, and its handshake starts. -/
def connect (nonce : String) (sent : Bool) :
    Option (Transport SigningKey) :=
  if w.sockets.has client then none
  else some
    { w with
      registry := w.registry.addAuthenticating client
      sockets := w.sockets.set client
        { auth := SocketAuth.authenticateServer w.e2e nonce sent
          readyState := .opened
          listening := true } }

/-- Go on with the setup of a connection when its handshake is over. -/
def continueSetup (socket : ServerSocket SigningKey) :
    Option (Transport SigningKey) :=
  match socket.auth.setup with
  | .waiting | .over => none
  | .succeeded =>
    let w :=
      { w.setAuth client socket { socket.auth with setup := .over } with
        registry := w.registry.removeAuthenticating client }
    if socket.readyState ≠ .opened then some w
    else
      let connectionId := socket.auth.receiveConnectionId w.e2e w.identities
      some { w with registry := w.registry.addClient client connectionId }
  | .failed _ => some (w.setAuth client { socket with readyState := socket.readyState.close }
      { socket.auth with setup := .over })

/-- The close listener of a socket. -/
def closeListener (socket : ServerSocket SigningKey) :
    Transport SigningKey :=
  { w.setAuth client { socket with readyState := .closed, listening := false }
      socket.auth.cleanupSocket with
    registry := (w.registry.removeClient client).1 }

/-! ### Requests to the clients -/

/-- Try the clients of a request in turn until one takes the frame; a send can throw.  Nothing is written
to a socket that is not open. -/
def tryClients (number : ℕ) (request : OutboundRequest)
    (throws : Socket → Bool) : Transport SigningKey × List TransportEvent :=
  match request.remaining.dropWhile throws with
  | [] => ({ w with requests := w.requests.delete number }, [])
  | target :: remaining =>
    ({ w with requests := w.requests.set number { request with remaining := remaining } },
      if (w.sockets.get? target).any fun socket => socket.readyState = .opened then
        [.written target .request request.subject request.payload request.source]
      else [])

/-- Send a request to interested connected clients. -/
def routeRequestToClients (source : Option Socket) (correlationId : String)
    (subject : Key) (payload : Option Json) (throws : Socket → Bool) :
    Transport SigningKey × List TransportEvent :=
  let selected := w.getInterestedRequestClients subject payload
    (w.registry.getRequestOrigin correlationId)
  let w' := { selected.2 with nextRequest := w.nextRequest + 1 }
  w'.tryClients w.nextRequest ⟨source, subject, payload, selected.1⟩ throws

end Transport

/-- What can happen next. -/
inductive TransportAction (SigningKey : Type)
  /-- a socket connects; whether the challenge could be sent -/
  | connect (client : Socket) (nonce : String) (sent : Bool)
  /-- a frame arrives -/
  | frame (client : Socket) (frame : Frame)
  /-- the timer of a handshake fires -/
  | timeoutHmac (client : Socket)
  | timeoutE2E (client : Socket)
  /-- a handshake goes on; whether what it sends can be sent, and the new connection id -/
  | continueHmac (client : Socket) (sent : Bool) (connectionId : String)
  | continueE2E (client : Socket) (ok : Bool)
  /-- the setup of a connection goes on after its handshake -/
  | continueSetup (client : Socket)
  /-- `socket.close()` by the host, or by the peer -/
  | close (client : Socket)
  | closeEvent (client : Socket)
  /-- the host registers an E2E strategy, identities and devices -/
  | setE2EAuth
  | registerIdentity (identityId secret : String) (options : HmacIdentitySecretRegistrationOptions)
  | rotateIdentity (identityId newSecret : String)
  | cleanupIdentity (identityId : String) (number : ℕ)
  | setDevice (deviceId : String) (key : SigningKey)
  | forgetDevice (deviceId : String)
  /-- the response to a client's request is sent -/
  | respond (correlationId : String)
  /-- the response route of a client's request ends -/
  | expireRequestOrigin (correlationId : String)
  | cancelRequestOrigin (correlationId : String)
  /-- the bus sends an event or a broadcast to the clients -/
  | send (broadcast : Bool) (subject : Key) (payload : Option Json)
  /-- the bus sends an event to one connection -/
  | sendToConnection (connectionId : String) (subject : Key) (payload : Option Json)
  /-- the bus sends a request of its own, or one it received, to the clients -/
  | sendRequest (correlationId : String) (subject : Key) (payload : Option Json)
      (throws : Socket → Bool)
  | forwardRequest (index : ℕ) (throws : Socket → Bool)
  /-- an attempt was not handled or timed out: the next clients are tried -/
  | retryRequest (number : ℕ) (throws : Socket → Bool)

/-- Whether an action routes no message. -/
def TransportAction.isSilent {SigningKey : Type} : TransportAction SigningKey → Bool
  | .frame .. | .send .. | .sendToConnection .. | .sendRequest .. | .forwardRequest .. | .retryRequest .. => false
  | _ => true

namespace Transport

variable {SigningKey : Type}
variable (socket : ServerSocket SigningKey)

/-- Whether a socket can be written to. -/
def canSend (sent : Bool) : Bool :=
  sent && socket.readyState = .opened

/-- Whether what E2E awaits succeeded; at the last two stages it also sends. -/
def e2eCallOk (ok : Bool) : Bool :=
  match socket.auth.e2eStage with
  | .generating .. | .derivingSession .. => canSend socket ok
  | _ => ok

/-- The key that E2E finds for the device it looks up. -/
def foundKey (w : Transport SigningKey) (socket : ServerSocket SigningKey) : Option SigningKey :=
  match socket.auth.e2eStage with
  | .lookingUp deviceId _ _ => w.deviceKeys.get? deviceId
  | _ => none

def step (config : ServerConfig SigningKey) (w : Transport SigningKey) :
    TransportAction SigningKey → Option (Transport SigningKey × List TransportEvent)
  | .connect client nonce sent => (w.connect client nonce sent).map (·, [])
  | .frame client frame =>
    (w.sockets.get? client).bind fun socket =>
      if socket.listening then some (w.receiveFrame client socket frame) else none
  | .timeoutHmac client => (w.sockets.get? client).map fun socket =>
      (w.setAuth client socket socket.auth.timeoutHmac, [])
  | .timeoutE2E client => (w.sockets.get? client).map fun socket =>
      (w.setAuth client socket socket.auth.timeoutE2E, [])
  | .continueHmac client sent connectionId => (w.sockets.get? client).map fun socket =>
      (w.setAuth client socket (socket.auth.continueHmac config.crypto config.secret w.identities
        (canSend socket sent) connectionId), [])
  | .continueE2E client ok => (w.sockets.get? client).map fun socket =>
      (w.setAuth client socket (socket.auth.continueE2E config.crypto (e2eCallOk socket ok)
        (w.foundKey socket)), [])
  | .continueSetup client => (w.sockets.get? client).bind fun socket =>
      (w.continueSetup client socket).map (·, [])
  | .close client => (w.sockets.get? client).map fun socket =>
      (w.setAuth client { socket with readyState := socket.readyState.close } socket.auth, [])
  | .closeEvent client => (w.sockets.get? client).bind fun socket =>
      if socket.listening then some (w.closeListener client socket, []) else none
  | .setE2EAuth => some ({ w with e2e := true }, [])
  | .registerIdentity identityId secret options =>
    (w.identities.registerHmacIdentitySecret identityId secret options).map fun identities =>
      ({ w with identities := identities }, [])
  | .rotateIdentity identityId newSecret =>
    (w.identities.rotateHmacIdentitySecret identityId newSecret).map fun identities =>
      ({ w with identities := identities }, [])
  | .cleanupIdentity identityId number =>
    some ({ w with identities := w.identities.cleanup identityId number }, [])
  | .setDevice deviceId key =>
    some ({ w with
        deviceKeys := w.deviceKeys.set deviceId key
        registeredKeys := w.registeredKeys ++ [(deviceId, key)] }, [])
  | .forgetDevice deviceId => some ({ w with deviceKeys := w.deviceKeys.delete deviceId }, [])
  | .expireRequestOrigin correlationId =>
    (w.registry.expireRequestOrigin correlationId).map fun registry =>
      ({ w with registry := registry }, [])
  | .respond correlationId => some (w.respond correlationId, [])
  | .cancelRequestOrigin correlationId =>
    some ({ w with registry := w.registry.cancelRequestOrigin correlationId }, [])
  | .send broadcast subject payload =>
    some (writeAll (w.getInterestedClients subject payload none)
      (if broadcast then .broadcast else .event) subject payload)
  | .sendToConnection connectionId subject payload =>
    let found := w.getClientByConnectionId connectionId
    some (found.2, found.1.toList.map fun client => .written client .event subject payload none)
  | .sendRequest correlationId subject payload throws =>
    some (w.routeRequestToClients none correlationId subject payload throws)
  | .forwardRequest index throws => w.received[index]?.map fun request =>
      w.routeRequestToClients (some request.socket) request.correlationId request.subject
        request.payload throws
  | .retryRequest number throws => (w.requests.get? number).map fun request =>
      w.tryClients number request throws

/-- A step that routes no message has no events. -/
lemma events_of_isSilent {config : ServerConfig SigningKey} {w w' : Transport SigningKey}
    {a : TransportAction SigningKey} {events : List TransportEvent} (h : w.step config a = some (w', events))
    (ha : a.isSilent = true) : events = [] := by
  cases a with
  | frame | send | sendToConnection | sendRequest | forwardRequest | retryRequest => cases ha
  | closeEvent client =>
    obtain ⟨socket, -, h⟩ := Option.bind_eq_some_iff.mp h
    split_ifs at h
    exact (Prod.mk.inj (Option.some.inj h)).2.symm
  | continueSetup client =>
    obtain ⟨socket, -, h⟩ := Option.bind_eq_some_iff.mp h
    obtain ⟨_, _, heq⟩ := Option.map_eq_some_iff.mp h
    exact (Prod.mk.inj heq).2.symm
  | connect | timeoutHmac | timeoutE2E | continueHmac | continueE2E | close | registerIdentity | rotateIdentity
  | expireRequestOrigin =>
    obtain ⟨_, _, heq⟩ := Option.map_eq_some_iff.mp h
    exact (Prod.mk.inj heq).2.symm
  | setE2EAuth | cleanupIdentity | setDevice | forgetDevice | respond | cancelRequestOrigin =>
    exact (Prod.mk.inj (Option.some.inj h)).2.symm

end Transport

end Makaio.Server
