import Makaio.Server.Identities

set_option autoImplicit false

/-!
# The authentication state of a socket

A server with `HmacAuth` and optionally `E2EAuth` behind `DispatchingAuth` keeps the state of a socket's
authentication in several maps (`dispatching-auth.ts`, `hmac-auth.ts`, `e2e-auth.ts`).  Here the entries
of all these maps for one socket form one record, with the stage of each handshake that runs for the
socket; an operation on a socket touches no other socket's entries.

## Main definitions

* `Crypto` — the HMAC and the signature check, as functions.
* `Admission` — a handshake that succeeded, with what it was checked against.
* `SocketAuth` — the entries of one socket.
* `hmacCleanupSocket`, `e2eCleanupSocket`, `cleanupSocket` — the cleanups of the two strategies and of the
  dispatcher; `handleAuthMessage`, `continueHmac`, `continueE2E` — the handshakes step by step.
* `SocketAuth.isSocketAuthenticated` — the check of the dispatcher.
-/

namespace Makaio.Server

open Foundations Bus

/-- The cryptography: the hex text of the HMAC of a nonce under a secret, and whether a signature of a
text is valid under a public key. -/
structure Crypto (SigningKey : Type) where
  hmac : (secret nonce : String) → String
  verify : (key : SigningKey) → (data signature : String) → Bool

/-- The value of a hex digit. -/
def hexDigit? (c : Char) : Option ℕ :=
  if '0' ≤ c ∧ c ≤ '9' then some (c.toNat - '0'.toNat)
  else if 'a' ≤ c ∧ c ≤ 'f' then some (c.toNat - 'a'.toNat + 10)
  else if 'A' ≤ c ∧ c ≤ 'F' then some (c.toNat - 'A'.toNat + 10)
  else none

/-- Compare an untrusted signature with a hex text: the same digits in either case of letters.  A value
that is not a string (none) is refused. -/
def constantTimeEqual (a : Option String) (b : String) : Bool :=
  match a with
  | none => false
  | some a => a.length = b.length && a ≠ "" && a.toList.all (fun c => (hexDigit? c).isSome) &&
      a.toList.map hexDigit? = b.toList.map hexDigit?

/-- The two authentication strategies. -/
inductive Strategy
  | hmac
  | e2e
  deriving DecidableEq

/-- What a socket proved in a handshake that succeeded. -/
inductive Credential (SigningKey : Type)
  /-- a response under the global secret -/
  | global (response : Option String)
  /-- a response under the secret of the identity it claimed -/
  | identity (identityId secret : String) (response : Option String)
  /-- a signed key of the device it claimed -/
  | device (deviceId : String) (key : SigningKey) (ephemeralPublicKey signature : String)

/-- The identity a credential stands for; none for the global secret. -/
def Credential.identityId {SigningKey : Type} : Credential SigningKey → Option String
  | global _ => none
  | identity identityId _ _ => some identityId
  | device deviceId _ _ _ => some deviceId

/-- A handshake that succeeded: the nonce the server had issued in it, and what the socket proved. -/
structure Admission (SigningKey : Type) where
  nonce : String
  credential : Credential SigningKey

/-- The handshake was a proof: the response is the HMAC of the nonce under the secret, or the signature
is valid under a key known for the device. -/
def Admission.Proved {SigningKey : Type} (crypto : Crypto SigningKey) (globalSecret : String)
    (known : String → SigningKey → Prop) (a : Admission SigningKey) : Prop :=
  match a.credential with
  | .global response => constantTimeEqual response (crypto.hmac globalSecret a.nonce) = true
  | .identity _ secret response => constantTimeEqual response (crypto.hmac secret a.nonce) = true
  | .device deviceId key ephemeralPublicKey signature =>
    known deviceId key ∧ crypto.verify key (ephemeralPublicKey ++ deviceId) signature = true

/-- Where `HmacAuth.authenticateServer` stands. -/
inductive HmacStage
  /-- not called, or over -/
  | idle
  /-- waits for the response of the client -/
  | awaiting
  /-- the response has arrived -/
  | answered (signature : Option String) (identityId : Option String)
  /-- the wait was broken off -/
  | rejected
  /-- computes the expected signature; the claimed identity with its secret, if one was claimed -/
  | computing (signature : Option String) (identity : Option (String × String))
  deriving DecidableEq

/-- Where `E2EAuth.authenticateServer` stands. -/
inductive E2EStage (SigningKey : Type)
  /-- not called, or over -/
  | idle
  /-- waits for the key exchange of the client -/
  | awaiting
  /-- the key exchange has arrived -/
  | exchanged (deviceId ephemeralPublicKey signature : String)
  /-- the wait was broken off -/
  | rejected
  | lookingUp (deviceId ephemeralPublicKey signature : String)
  | verifying (deviceId : String) (key : SigningKey) (ephemeralPublicKey signature : String)
  /-- generates its own key, after a successful verification -/
  | generating (deviceId : String) (key : SigningKey) (ephemeralPublicKey signature : String)
  | derivingSession (deviceId : String) (key : SigningKey) (ephemeralPublicKey signature : String)

/-- The promise that the setup of a connection waits for. -/
inductive SetupStage
  | waiting
  | succeeded
  /-- whether the failure is a refusal -/
  | failed (refused : Bool)
  | over
  deriving DecidableEq

/-- The entries of one socket. -/
structure SocketAuth (SigningKey : Type) where
  /-- The nonce the server issued. -/
  nonce : String
  /-- `socketStrategy` of the dispatcher -/
  strategy : Option Strategy
  /-- Whether `pendingServerAuth` of the dispatcher has an entry. -/
  pendingServerAuth : Bool
  /-- Whether `hmacCancelled` of the dispatcher has an entry. -/
  hmacCancellable : Bool
  /-- Whether the flag that was entered there has been set. -/
  hmacCancelled : Bool
  /-- Whether `serverPendingResponses` has an entry. -/
  hmacPending : Bool
  hmacStage : HmacStage
  /-- `serverAuthenticatedSockets` -/
  hmacAuthenticated : Bool
  /-- `serverAuthenticatedPeers` -/
  hmacPeer : Option String
  /-- `serverAuthenticatedSecrets` -/
  hmacSecret : Option String
  /-- `serverConnectionIds` -/
  connectionId : Option String
  /-- Whether `serverPendingKeyExchange` has an entry. -/
  e2ePending : Bool
  e2eStage : E2EStage SigningKey
  /-- The peer of `serverSessions`. -/
  e2eSession : Option String
  setup : SetupStage
  /-- The handshake that succeeded, unless the socket was cleaned up since. -/
  admitted : Option (Admission SigningKey)

namespace SocketAuth

variable {SigningKey : Type}

/-! ### Cleanup -/

variable (st : SocketAuth SigningKey)

/-- `HmacAuth.cleanupSocket` -/
def hmacCleanupSocket : SocketAuth SigningKey :=
  { st with
    hmacPending := false
    hmacStage := if st.hmacPending ∧ st.hmacStage = .awaiting then .rejected else st.hmacStage
    hmacAuthenticated := false
    hmacPeer := none
    hmacSecret := none
    connectionId := none
    admitted := if st.hmacAuthenticated then none else st.admitted }

/-- `E2EAuth.cleanupSocket` -/
def e2eCleanupSocket : SocketAuth SigningKey :=
  { st with
    e2ePending := false
    e2eStage := match st.e2ePending, st.e2eStage with
      | true, .awaiting => .rejected
      | _, stage => stage
    e2eSession := none
    admitted := if st.e2eSession.isSome then none else st.admitted }

/-- Settle the promise of the setup; only the first outcome counts. -/
def settleSetup (outcome : SetupStage) : SocketAuth SigningKey :=
  { st with setup := if st.setup = .waiting then outcome else st.setup }

/-- Cancel the eagerly-started HMAC authentication for a socket. -/
def cancelHmac : SocketAuth SigningKey :=
  if st.hmacCancellable then
    { st.hmacCleanupSocket with hmacCancellable := false, hmacCancelled := true }
  else st

/-- Reject the pending authentication of the dispatcher. -/
def rejectPending (refused : Bool) : SocketAuth SigningKey :=
  if st.pendingServerAuth then
    { st.settleSetup (.failed refused) with pendingServerAuth := false }
  else st

/-- The cleanup of the strategy selected for the socket. -/
def cleanupStrategy : SocketAuth SigningKey :=
  match st.strategy with
  | some .hmac => { st.hmacCleanupSocket with strategy := none }
  | some .e2e => { st.e2eCleanupSocket with strategy := none }
  | none => st

/-- `DispatchingAuth.cleanupSocket` -/
def cleanupSocket : SocketAuth SigningKey :=
  (st.cleanupStrategy.cancelHmac).rejectPending false

/-! ### The checks on an authenticated socket -/

/-- `HmacAuth.isSocketAuthenticated`; a stale socket is cleaned up. -/
def hmacIsSocketAuthenticated (identities : IdentitySecrets) (st : SocketAuth SigningKey) :
    Bool × SocketAuth SigningKey :=
  if !st.hmacAuthenticated then (false, st)
  else match st.hmacPeer with
    | none => (true, st)
    | some identityId =>
      match identities.resolveSecret identityId with
      | none => (false, st.hmacCleanupSocket)
      | some currentSecret =>
        if st.hmacSecret.isSome ∧ st.hmacSecret ≠ some currentSecret then
          (false, st.hmacCleanupSocket)
        else (true, st)

variable (e2e : Bool)

/-- The strategy of a socket: the one selected for it, or the sole one. -/
def resolveSocketStrategy (st : SocketAuth SigningKey) : Option Strategy :=
  match st.strategy with
  | some strategy => some strategy
  | none => if e2e then none else some .hmac

/-- `DispatchingAuth.isSocketAuthenticated`: true when no selected strategy provides a check. -/
def isSocketAuthenticated (identities : IdentitySecrets) (st : SocketAuth SigningKey) :
    Bool × SocketAuth SigningKey :=
  match st.resolveSocketStrategy e2e with
  | some .hmac => st.hmacIsSocketAuthenticated identities
  | some .e2e => (true, st)
  | none => (true, st)

/-- `DispatchingAuth.getReceiveContext`: the id of the authenticated peer. -/
def receivePeer (identities : IdentitySecrets) (st : SocketAuth SigningKey) :
    Option String :=
  match st.resolveSocketStrategy e2e with
  | some .hmac => st.hmacPeer.bind identities.resolvePeer
  | some .e2e => st.e2eSession
  | none => none

/-- `DispatchingAuth.getReceiveContext`: the connection id. -/
def receiveConnectionId (identities : IdentitySecrets) (st : SocketAuth SigningKey) :
    Option String :=
  match st.resolveSocketStrategy e2e with
  | some .hmac => (st.hmacPeer.bind identities.resolvePeer).bind fun _ => st.connectionId
  | _ => none

/-! ### The handshakes -/

/-- `DispatchingAuth.authenticateServer` for a new socket: HMAC starts at once, and with two strategies
the dispatcher waits for the first message of the client. -/
def authenticateServer (nonce : String) (sent : Bool) : SocketAuth SigningKey where
  nonce := nonce
  strategy := none
  pendingServerAuth := e2e
  hmacCancellable := e2e
  hmacCancelled := false
  hmacPending := sent
  hmacStage := if sent then .awaiting else .idle
  hmacAuthenticated := false
  hmacPeer := none
  hmacSecret := none
  connectionId := none
  e2ePending := false
  e2eStage := .idle
  e2eSession := none
  -- a challenge that could not be sent fails the handshake
  setup := if sent then .waiting else .failed false
  admitted := none

/-- A frame as the authentication sees it. -/
inductive AuthMessage
  /-- `auth-response`; none for a signature that is no string -/
  | authResponse (signature : Option String) (identityId : Option String)
  /-- `auth-response` with an identity that is no string -/
  | malformedAuthResponse
  /-- `auth-challenge` and `auth-result`, which a client does not send -/
  | hmacClientSide
  /-- `e2e-key-exchange` -/
  | keyExchange (deviceId ephemeralPublicKey signature : String)
  /-- `e2e-key-exchange` with malformed key material -/
  | malformedKeyExchange
  /-- `e2e-key-exchange-response` and `e2e-auth-result`, which a client does not send -/
  | e2eClientSide
  /-- any other type -/
  | application

/-- `DispatchingAuth.resolveStrategy`: by the type of the first message. -/
def resolveStrategy : AuthMessage → Option Strategy
  | .keyExchange .. | .malformedKeyExchange => if e2e then some .e2e else none
  | .authResponse .. | .malformedAuthResponse => some .hmac
  | _ => none

/-- `HmacAuth.handleAuthMessage` on the server side. -/
def hmacHandleAuthMessage :
    AuthMessage → Bool × SocketAuth SigningKey
  | .authResponse signature identityId =>
    (true, if st.hmacPending ∧ st.hmacStage = .awaiting then
      { st with hmacStage := .answered signature identityId } else st)
  | .malformedAuthResponse =>
    (true, if st.hmacPending ∧ st.hmacStage = .awaiting then
      { st with hmacStage := .rejected } else st)
  | .hmacClientSide => (true, st)
  | _ => (false, st)

/-- `E2EAuth.handleAuthMessage` on the server side. -/
def e2eHandleAuthMessage :
    AuthMessage → Bool × SocketAuth SigningKey
  | .keyExchange deviceId ephemeralPublicKey signature =>
    (true, match st.e2ePending, st.e2eStage with
      | true, .awaiting => { st with e2eStage := .exchanged deviceId ephemeralPublicKey signature }
      | _, _ => st)
  | .malformedKeyExchange =>
    (true, match st.e2ePending, st.e2eStage with
      | true, .awaiting => { st with e2eStage := .rejected }
      | _, _ => st)
  | .e2eClientSide => (true, st)
  | _ => (false, st)

/-- Forward a message to a strategy. -/
def forwardAuthMessage (strategy : Strategy) (st : SocketAuth SigningKey) (message : AuthMessage) :
    Bool × SocketAuth SigningKey :=
  match strategy with
  | .hmac => st.hmacHandleAuthMessage message
  | .e2e => st.e2eHandleAuthMessage message

/-- Select a strategy on the first message of a socket. -/
def selectStrategy : Strategy → SocketAuth SigningKey
  | .hmac =>
    -- HMAC is already running.
    { st with strategy := some .hmac, pendingServerAuth := false, hmacCancellable := false }
  | .e2e =>
    let st' := { st.cancelHmac with strategy := some .e2e, pendingServerAuth := false }
    if st.pendingServerAuth then { st' with e2ePending := true, e2eStage := .awaiting } else st'

/-- `DispatchingAuth.handleAuthMessage` -/
def handleAuthMessage (st : SocketAuth SigningKey) (message : AuthMessage) :
    Bool × SocketAuth SigningKey :=
  match st.strategy with
  | some strategy => st.forwardAuthMessage strategy message
  | none =>
    match resolveStrategy e2e message with
    | none => (false, st.cancelHmac.rejectPending true)
    | some strategy => (st.selectStrategy strategy).forwardAuthMessage strategy message

/-- The timer of the HMAC handshake fires. -/
def timeoutHmac : SocketAuth SigningKey :=
  if st.hmacStage = .awaiting then { st with hmacStage := .rejected } else st

/-- The timer of the E2E handshake fires. -/
def timeoutE2E : SocketAuth SigningKey :=
  match st.e2eStage with
  | .awaiting => { st with e2eStage := .rejected }
  | _ => st

/-- HMAC ends without success: the dispatcher hears of it unless it has cancelled HMAC. -/
def failHmac (refused : Bool) : SocketAuth SigningKey :=
  let st' := { st with hmacPending := false, hmacStage := .idle }
  if st.hmacCancelled then st' else st'.settleSetup (.failed refused)

/-- E2E ends without success: what it entered is dropped if it still owns the handshake. -/
def failE2E (refused : Bool) : SocketAuth SigningKey :=
  { (if st.e2ePending then { st with e2eSession := none, e2ePending := false } else st).settleSetup
      (.failed refused) with e2eStage := .idle }

/-- The next stage of `HmacAuth.authenticateServer`.  `sent` says whether the result could be sent,
`connectionId` is the connection id generated on success. -/
def continueHmac (crypto : Crypto SigningKey) (globalSecret : String) (identities : IdentitySecrets)
    (sent : Bool) (connectionId : String) (st : SocketAuth SigningKey) : SocketAuth SigningKey :=
  match st.hmacStage with
  | .idle | .awaiting => st
  | .rejected => st.failHmac false
  | .answered signature identityId =>
    if !st.hmacPending then st.failHmac false
    else match identityId with
      | none => { st with hmacStage := .computing signature none }
      | some identityId =>
        match identities.resolveSecret identityId with
        | none => st.failHmac true
        | some secret => { st with hmacStage := .computing signature (some (identityId, secret)) }
  | .computing signature identity =>
    if !st.hmacPending then st.failHmac false
    else
      let secret := (identity.map Prod.snd).getD globalSecret
      if !constantTimeEqual signature (crypto.hmac secret st.nonce) then st.failHmac true
      -- the positive result could not be delivered
      else if !sent then st.hmacCleanupSocket.failHmac false
      else
        { st.settleSetup .succeeded with
          hmacPending := false
          hmacStage := .idle
          hmacAuthenticated := true
          hmacPeer := identity.map Prod.fst
          hmacSecret := identity.map Prod.snd
          connectionId := some connectionId
          admitted := some
            { nonce := st.nonce
              credential := match identity with
                | none => .global signature
                | some (identityId, secret) => .identity identityId secret signature } }

/-- The next stage of `E2EAuth.authenticateServer`.  `ok` says whether the awaited call succeeded and what
it was to send could be sent, `found` is the key of the device that the lookup found. -/
def continueE2E (crypto : Crypto SigningKey) (ok : Bool) (found : Option SigningKey)
    (st : SocketAuth SigningKey) : SocketAuth SigningKey :=
  match st.e2eStage with
  | .idle | .awaiting => st
  | .rejected => st.failE2E false
  | .exchanged deviceId ephemeralPublicKey signature =>
    if !st.e2ePending then st.failE2E false
    else { st with e2eStage := .lookingUp deviceId ephemeralPublicKey signature }
  | .lookingUp deviceId ephemeralPublicKey signature =>
    if !ok || !st.e2ePending then st.failE2E false
    else match found with
      | none => st.failE2E true
      | some key => { st with e2eStage := .verifying deviceId key ephemeralPublicKey signature }
  | .verifying deviceId key ephemeralPublicKey signature =>
    if !ok || !st.e2ePending then st.failE2E false
    else if !crypto.verify key (ephemeralPublicKey ++ deviceId) signature then st.failE2E true
    else { st with e2eStage := .generating deviceId key ephemeralPublicKey signature }
  | .generating deviceId key ephemeralPublicKey signature =>
    if !ok || !st.e2ePending then st.failE2E false
    else { st with e2eStage := .derivingSession deviceId key ephemeralPublicKey signature }
  | .derivingSession deviceId key ephemeralPublicKey signature =>
    if !ok || !st.e2ePending then st.failE2E false
    else
      { st.settleSetup .succeeded with
        e2ePending := false
        e2eStage := .idle
        e2eSession := some deviceId
        admitted := some
          { nonce := st.nonce
            credential := .device deviceId key ephemeralPublicKey signature } }

end SocketAuth

end Makaio.Server
