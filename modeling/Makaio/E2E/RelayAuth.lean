import Makaio.Foundations.KeyAgreement
import Makaio.Foundations.Utf16
import Mathlib.Data.List.Lex
import Mathlib.Order.Lex

set_option autoImplicit false

/-!
# The handshake of relay connections

Two clients of a relay agree on a session key (`e2e-relay-auth.ts`): each announces an ephemeral public key
under a signature, verifies the announcement of its peer and derives the key.  One instance serves the
connections of its transport one after the other, and numbers them by a generation.  Each of its asynchronous
calls is a task here, which stops at every `await` and continues at some later step; the text between two
`await`s is one step.

## Main definitions

* `RelayCrypto`, `deriveRelaySaltHex`, `deriveE2ESessionKey` — the
  primitives, and what the handshake derives with them.
* `RelayAuth` — an instance with its tasks.
* `RelayAuth.authenticateClient`, `RelayAuth.handleAuthMessage`,
  `RelayAuth.cleanup` — what its transport calls.
* `RelayAuth.step` — a call from outside, or a task that continues.
-/

namespace Makaio.E2E

open Foundations

/-! ### The primitives -/

/-- The primitives of the handshake: an agreement on ephemeral pairs, the digest of a text in hex, the
derivation of a key from a secret, a salt and a label, and the verification of signatures. -/
structure RelayCrypto (Pair Secret SigningKey Key : Type) where
  agreement : KeyAgreement Pair Utf16 Secret
  sha256Hex : Utf16 → Utf16
  hkdf : Secret → Utf16 → String → Key
  /-- The verification of a signature, in hex, of a text. -/
  verify : SigningKey → Utf16 → Utf16 → Bool

section Helpers

variable {Pair Secret SigningKey Key : Type} (crypto : RelayCrypto Pair Secret SigningKey Key)

/-- The salt of a session: the digest of both identities and both public keys, in the order of the
identities.  There is none for one identity twice. -/
def deriveRelaySaltHex (identityId peerId localEphemeralPublicKey peerEphemeralPublicKey : Utf16) :
    Option Utf16 :=
  if identityId = peerId then none
  else
    let ids := if identityId < peerId then (identityId, peerId) else (peerId, identityId)
    let keys := if identityId < peerId then (localEphemeralPublicKey, peerEphemeralPublicKey)
      else (peerEphemeralPublicKey, localEphemeralPublicKey)
    some (crypto.sha256Hex (ids.1 ++ ids.2 ++ keys.1 ++ keys.2))

/-- The key of a session, unless the public key of the peer is no valid one. -/
def deriveE2ESessionKey (localEphemeral : Pair) (peerEphemeralPublicKey salt : Utf16) : Option Key :=
  (crypto.agreement.shared localEphemeral peerEphemeralPublicKey).map fun secret =>
    crypto.hkdf secret salt "makaio-e2e-relay-v1"

/-- The signature of an ephemeral public key covers the identity of its owner. -/
def verifyEphemeralKeySignature (peerPublicKey : SigningKey) (ephemeralPublicKey signature peerId : Utf16) :
    Bool :=
  crypto.verify peerPublicKey signature (ephemeralPublicKey ++ peerId)

end Helpers

/-! ### An instance -/

/-- The message of the handshake. -/
structure RelayKeyExchangeMessage where
  identityId : Utf16
  ephemeralPublicKey : Utf16
  signature : Utf16
  deriving DecidableEq

/-- Who announces first. -/
inductive RelayAuthMode
  | initiator
  | responder
  deriving DecidableEq

/-- The options of an instance that its steps read. -/
structure E2ERelayAuthOptions where
  identityId : Utf16
  mode : RelayAuthMode
  blocking : Bool

/-- What `ensureLocalExchangeMessage` is awaited for. -/
inductive Purpose
  | announce
  | process (peer : RelayKeyExchangeMessage)

/-- Where a task stands: at which `await`, with what it keeps in its variables. -/
inductive Stage (Pair SigningKey : Type)
  /-- The ephemeral key is being generated and signed. -/
  | generating (purpose : Purpose)
  /-- The own message is returned. -/
  | ensured (purpose : Purpose) (localMessage : RelayKeyExchangeMessage)
  /-- `pendingPeer` is awaited. -/
  | waiting
  /-- The message of the peer is returned. -/
  | received (peer : RelayKeyExchangeMessage)
  /-- The signing key of the peer is being looked up. -/
  | lookingUp (peer localMessage : RelayKeyExchangeMessage)
  /-- The signature is being verified. -/
  | verifying (peer localMessage : RelayKeyExchangeMessage) (peerKey : SigningKey)
  /-- The salt is being derived. -/
  | salting (peer localMessage : RelayKeyExchangeMessage)
  /-- The session key is being derived. -/
  | derivingKey (peer localMessage : RelayKeyExchangeMessage) (localEphemeral : Pair) (salt : Utf16)
  /-- `processPeerExchange` returned. -/
  | processed
  /-- What was awaited threw. -/
  | failed
  /-- The task ended, and `authenticateClient` resolved or not. -/
  | ended (resolved : Bool)

/-- The task is deriving the session key. -/
def Stage.isDerivingKey {Pair SigningKey : Type} : Stage Pair SigningKey → Bool
  | .derivingKey _ _ _ _ => true
  | _ => false

/-- The calls that run as tasks. -/
inductive Origin
  | authenticateClient
  | dispatchPeerExchange

/-- A task, with the generation it was started for. -/
structure RelayTask (Pair SigningKey : Type) where
  origin : Origin
  generation : ℕ
  stage : Stage Pair SigningKey

/-- An instance with its tasks.  The last four fields record what was sent, in all and in the current
generation, the exchange that the session key was derived from, and the answers of `getPeerSigningKey`. -/
structure RelayAuth (Pair SigningKey Key : Type) where
  pendingPeer : Option ℕ
  sessionKey : Option Key
  peerId : Option Utf16
  localEphemeral : Option Pair
  localExchangeMessage : Option RelayKeyExchangeMessage
  sentLocalExchange : Bool
  earlyPeer : Option RelayKeyExchangeMessage
  /-- Whether there is a function to send with. -/
  sendAuthMessage : Bool
  authGeneration : ℕ
  processingExchange : Bool
  tasks : List (RelayTask Pair SigningKey)
  sent : List RelayKeyExchangeMessage
  announced : List RelayKeyExchangeMessage
  accepted : Option RelayKeyExchangeMessage
  answers : List (Utf16 × SigningKey)

namespace RelayAuth

variable {Pair Secret SigningKey Key : Type}

/-- An instance as it is constructed. -/
def new : RelayAuth Pair SigningKey Key where
  pendingPeer := none
  sessionKey := none
  peerId := none
  localEphemeral := none
  localExchangeMessage := none
  sentLocalExchange := false
  earlyPeer := none
  sendAuthMessage := false
  authGeneration := 0
  processingExchange := false
  tasks := []
  sent := []
  announced := []
  accepted := none
  answers := []

variable (s : RelayAuth Pair SigningKey Key)

/-- The task moves to a stage. -/
def setStage (t : ℕ) (stage : Stage Pair SigningKey) :
    RelayAuth Pair SigningKey Key :=
  { s with tasks := s.tasks.modify t fun task => { task with stage := stage } }

/-- The stage of a task. -/
def stageAt (t : ℕ) : Option (Stage Pair SigningKey) :=
  s.tasks[t]?.map RelayTask.stage

/-- A task is started. -/
def spawn (task : RelayTask Pair SigningKey) :
    RelayAuth Pair SigningKey Key :=
  { s with tasks := s.tasks ++ [task] }

/-- The state of the session is reset and the generation advanced; who waits for the peer is rejected. -/
def cleanup : RelayAuth Pair SigningKey Key :=
  let s := match s.pendingPeer with
    | some t => s.setStage t .failed
    | none => s
  { s with
    authGeneration := s.authGeneration + 1
    pendingPeer := none
    earlyPeer := none
    sessionKey := none
    peerId := none
    localEphemeral := none
    localExchangeMessage := none
    sentLocalExchange := false
    processingExchange := false
    sendAuthMessage := false
    announced := []
    accepted := none }

/-- The own message is there, or a key has to be generated for it. -/
def ensureLocalExchangeMessage (purpose : Purpose) :
    Stage Pair SigningKey :=
  match s.localExchangeMessage, s.localEphemeral with
  | some localMessage, some _ => .ensured purpose localMessage
  | _, _ => .generating purpose

/-- The own message is sent, unless it was sent before and is not `forced`.  The second value tells whether
the call returned: a function to send with may throw. -/
def sendLocalExchange (force delivers : Bool) :
    RelayAuth Pair SigningKey Key × Bool :=
  match s.sendAuthMessage, s.localExchangeMessage with
  | true, some message =>
    if !force && s.sentLocalExchange then (s, true)
    else if delivers then
      ({ s with
          sentLocalExchange := true
          sent := s.sent ++ [message]
          announced := s.announced ++ [message] }, true)
    else (s, false)
  | _, _ => (s, true)

/-- The start of `processPeerExchange`, up to its first `await`. -/
def processPeerExchange (t : ℕ) (peer : RelayKeyExchangeMessage) :
    RelayAuth Pair SigningKey Key :=
  if s.sendAuthMessage then s.setStage t (s.ensureLocalExchangeMessage (.process peer))
  else { s with earlyPeer := some peer }.setStage t .processed

/-- `processPeerExchange` as a task of its own. -/
def dispatchPeerExchange (peer : RelayKeyExchangeMessage) (generation : ℕ) : RelayAuth Pair SigningKey Key :=
  ({ s with processingExchange := true }.spawn
    { origin := .dispatchPeerExchange, generation, stage := .received peer }).processPeerExchange
      s.tasks.length peer

/-- The message of the peer, or a wait for it. -/
def waitForPeerExchange (t : ℕ) : RelayAuth Pair SigningKey Key :=
  match s.earlyPeer with
  | some payload => { s with earlyPeer := none }.setStage t (.received payload)
  | none => { s with pendingPeer := some t }.setStage t .waiting

/-- The queued exchange is dispatched, if there is one and nothing stands against it. -/
def retryQueuedPeerExchange (options : E2ERelayAuthOptions) (s : RelayAuth Pair SigningKey Key)
    (generation : ℕ) : RelayAuth Pair SigningKey Key :=
  if options.blocking || !s.sendAuthMessage || s.sessionKey.isSome || s.processingExchange ||
      generation != s.authGeneration then s
  else match s.earlyPeer with
    | some queuedPeer => { s with earlyPeer := none }.dispatchPeerExchange queuedPeer generation
    | none => s

/-- `authenticateClient` after the announcement. -/
def awaitPeer (options : E2ERelayAuthOptions) (s : RelayAuth Pair SigningKey Key) (t generation : ℕ) :
    RelayAuth Pair SigningKey Key :=
  if options.blocking then s.waitForPeerExchange t
  else match s.earlyPeer with
    | some peer =>
      ({ s with earlyPeer := none }.dispatchPeerExchange peer generation).setStage t (.ended true)
    | none => s.setStage t (.ended true)

/-- The start of `authenticateClient`, up to its first `await`. -/
def authenticateClient (options : E2ERelayAuthOptions) (s : RelayAuth Pair SigningKey Key) :
    RelayAuth Pair SigningKey Key :=
  let pendingEarlyPeer := if s.sendAuthMessage then none else s.earlyPeer
  let s := s.cleanup
  let generation := s.authGeneration
  let t := s.tasks.length
  let s := { s with earlyPeer := pendingEarlyPeer, sendAuthMessage := true }.spawn
    { origin := .authenticateClient, generation, stage := .waiting }
  match options.mode with
  | .initiator => s.setStage t (s.ensureLocalExchangeMessage .announce)
  | .responder => s.awaitPeer options t generation

/-- A message of the handshake arrives. -/
def handleAuthMessage (options : E2ERelayAuthOptions) (s : RelayAuth Pair SigningKey Key)
    (payload : RelayKeyExchangeMessage) : RelayAuth Pair SigningKey Key :=
  if payload.identityId = options.identityId then s
  else match s.pendingPeer with
    | some t => { s with pendingPeer := none }.setStage t (.received payload)
    | none =>
      let s := { s with earlyPeer := some payload }
      if !options.blocking && s.sendAuthMessage && !s.sessionKey.isSome && !s.processingExchange then
        s.dispatchPeerExchange payload s.authGeneration
      else s

/-! ### Tasks that continue -/

/-- A pair was generated: the end of `ensureLocalExchangeMessage`. -/
def keyGenerated (crypto : RelayCrypto Pair Secret SigningKey Key) (options : E2ERelayAuthOptions)
    (s : RelayAuth Pair SigningKey Key) (t : ℕ) (purpose : Purpose) (pair : Pair) (signature : Utf16) :
    RelayAuth Pair SigningKey Key :=
  let localMessage :=
    { identityId := options.identityId
      ephemeralPublicKey := crypto.agreement.publicKey pair
      signature }
  { s with localEphemeral := some pair, localExchangeMessage := some localMessage }.setStage t
    (.ensured purpose localMessage)

/-- `authenticateClient` of an initiator has its message. -/
def announce (options : E2ERelayAuthOptions) (s : RelayAuth Pair SigningKey Key) (t generation : ℕ)
    (delivers : Bool) : RelayAuth Pair SigningKey Key :=
  if generation ≠ s.authGeneration then s.setStage t .failed
  else
    let (s, returned) := s.sendLocalExchange false delivers
    if returned then s.awaitPeer options t generation else s.setStage t .failed

/-- The session key was derived: the end of `processPeerExchange`. -/
def establish (options : E2ERelayAuthOptions) (s : RelayAuth Pair SigningKey Key) (t generation : ℕ)
    (peer : RelayKeyExchangeMessage) (sessionKey : Key) (delivers : Bool) : RelayAuth Pair SigningKey Key :=
  if generation ≠ s.authGeneration then s.setStage t .processed
  else
    let s := { s with
      sessionKey := some sessionKey
      peerId := some peer.identityId
      accepted := some peer }
    let (s, returned) := s.sendLocalExchange (options.mode = .initiator) delivers
    s.setStage t (if returned then .processed else .failed)

/-- A task whose work is over: the rest of `authenticateClient`, or the handlers of a dispatch. -/
def settle (options : E2ERelayAuthOptions) (s : RelayAuth Pair SigningKey Key) (t : ℕ)
    (task : RelayTask Pair SigningKey) (threw : Bool) : RelayAuth Pair SigningKey Key :=
  match task.origin with
  | .authenticateClient =>
    s.setStage t (.ended (!threw && task.generation = s.authGeneration && s.sessionKey.isSome))
  | .dispatchPeerExchange =>
    let s := s.setStage t (.ended true)
    if task.generation = s.authGeneration then
      { s with processingExchange := false }.retryQueuedPeerExchange options task.generation
    else s

end RelayAuth

/-- What happens to an instance: calls from outside, the timer of a wait, and tasks that continue with the
result of what they awaited.  `delivers` tells whether a function to send with returns. -/
inductive RelayEvent (Pair SigningKey : Type)
  | authenticateClient
  | cleanup
  | handleAuthMessage (payload : RelayKeyExchangeMessage)
  | timeout
  | generated (t : ℕ) (pair : Pair) (signature : Utf16)
  | lookedUp (t : ℕ) (peerKey : Option SigningKey)
  | resume (t : ℕ) (delivers : Bool)
  | rejected (t : ℕ)

namespace RelayAuth

variable {Pair Secret SigningKey Key : Type}
variable (crypto : RelayCrypto Pair Secret SigningKey Key) (options : E2ERelayAuthOptions)

/-- A task continues where nothing is awaited but its own result. -/
def resume (s : RelayAuth Pair SigningKey Key) (t : ℕ) (task : RelayTask Pair SigningKey)
    (delivers : Bool) : Option (RelayAuth Pair SigningKey Key) :=
  match task.stage with
  | .ensured .announce _ => some (s.announce options t task.generation delivers)
  | .ensured (.process peer) localMessage =>
    some (s.setStage t (if task.generation ≠ s.authGeneration then .processed
      else .lookingUp peer localMessage))
  | .received peer => some (s.processPeerExchange t peer)
  | .verifying peer localMessage peerKey =>
    some (s.setStage t
      (if verifyEphemeralKeySignature crypto peerKey peer.ephemeralPublicKey peer.signature
        peer.identityId then .salting peer localMessage else .failed))
  | .salting peer localMessage =>
    some (s.setStage t
      (match deriveRelaySaltHex crypto options.identityId peer.identityId
          localMessage.ephemeralPublicKey peer.ephemeralPublicKey, s.localEphemeral with
        | some salt, some localEphemeral => .derivingKey peer localMessage localEphemeral salt
        | _, _ => .failed))
  | .derivingKey peer _ localEphemeral salt =>
    (deriveE2ESessionKey crypto localEphemeral peer.ephemeralPublicKey salt).map fun sessionKey =>
      s.establish options t task.generation peer sessionKey delivers
  | .processed => some (s.settle options t task false)
  | .failed => some (s.settle options t task true)
  | .generating _ | .waiting | .lookingUp _ _ | .ended _ => none

/-- The result of what a task awaits is that it throws. -/
def reject (s : RelayAuth Pair SigningKey Key) (t : ℕ) (task : RelayTask Pair SigningKey) :
    Option (RelayAuth Pair SigningKey Key) :=
  match task.stage with
  | .generating _ | .lookingUp _ _ | .verifying _ _ _ | .salting _ _ | .derivingKey _ _ _ _ =>
    some (s.setStage t .failed)
  | .ensured _ _ | .waiting | .received _ | .processed | .failed | .ended _ => none

/-- A step of an instance. -/
def step (s : RelayAuth Pair SigningKey Key) :
    RelayEvent Pair SigningKey → Option (RelayAuth Pair SigningKey Key)
  | .authenticateClient => some (s.authenticateClient options)
  | .cleanup => some s.cleanup
  | .handleAuthMessage payload => some (s.handleAuthMessage options payload)
  | .timeout => s.pendingPeer.map fun t => { s with pendingPeer := none }.setStage t .failed
  | .generated t pair signature =>
    match s.stageAt t with
    | some (.generating purpose) => some (s.keyGenerated crypto options t purpose pair signature)
    | _ => none
  | .lookedUp t peerKey =>
    match s.stageAt t, peerKey with
    | some (.lookingUp peer localMessage), some peerKey =>
      some ({ s with answers := s.answers ++ [(peer.identityId, peerKey)] }.setStage t
        (.verifying peer localMessage peerKey))
    | some (.lookingUp _ _), none => some (s.setStage t .failed)
    | _, _ => none
  | .resume t delivers => s.tasks[t]?.bind fun task => s.resume crypto options t task delivers
  | .rejected t => s.tasks[t]?.bind fun task => s.reject t task

end RelayAuth

end Makaio.E2E
