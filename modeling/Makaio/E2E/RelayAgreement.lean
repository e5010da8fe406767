import Makaio.E2E.RelaySession
import Makaio.Foundations.Machine

set_option autoImplicit false

/-!
# Agreement of two instances over a relay

Two instances and a relay that delivers any of the messages that were sent, any number of times and in any
order.  The pair that an instance derives with is read again after the salt was derived, and nothing keeps a
key generation of an older generation, or a second one of the same, from replacing it in between.

## Main definitions

* `Side`, `relayStep` — the two instances over the relay.
* `AgreeOnKey` — that both hold the same key, once each has accepted what the other announced.

## Main results

* `relay_handshake_agreement` — along orderly runs every session key is backed, no task of an
  older generation changes the session, and both instances agree.
-/

namespace Makaio.E2E

open Foundations

variable {Pair Secret SigningKey Key : Type}

/-! ### Two instances over a relay -/

/-- The two ends of the relay. -/
inductive Side
  | left
  | right
  deriving DecidableEq

section Relay

variable (crypto : RelayCrypto Pair Secret SigningKey Key) (options : Side → E2ERelayAuthOptions)
variable (s : Side → RelayAuth Pair SigningKey Key)

/-- The relay delivers a message only if it was sent, by either side. -/
def Delivers : RelayEvent Pair SigningKey → Prop
  | .handleAuthMessage payload => payload ∈ (s .left).sent ∨ payload ∈ (s .right).sent
  | _ => True

instance (s : Side → RelayAuth Pair SigningKey Key) (event : RelayEvent Pair SigningKey) :
    Decidable (Delivers s event) :=
  match event with
  | .handleAuthMessage _ => inferInstanceAs (Decidable (_ ∨ _))
  | .authenticateClient | .cleanup | .timeout | .generated .. | .lookedUp .. | .resume .. | .rejected _ =>
    isTrue trivial

variable (event : Side × RelayEvent Pair SigningKey)

/-- A step of one of the two instances. -/
def relayStep :
    Option (Side → RelayAuth Pair SigningKey Key) :=
  if Delivers s event.2 then
    ((s event.1).step crypto (options event.1) event.2).map (Function.update s event.1)
  else none

/-- Both instances are as they were constructed. -/
def RelayInitial : Prop := s = fun _ => .new

/-- The states reached by runs whose steps satisfy a condition. -/
def RelayReached (ok : (Side → RelayAuth Pair SigningKey Key) → Side × RelayEvent Pair SigningKey → Prop)
    (s : Side → RelayAuth Pair SigningKey Key) : Prop :=
  Reach RelayInitial (relayStep crypto options) ok s

/-- Every step is orderly for its instance. -/
def RelayOrderly : Prop :=
  (s event.1).Orderly event.2

end Relay

/-- If each instance accepted an exchange that the other one announced in its current generation, then both
hold the same session key. -/
def AgreeOnKey (s : Side → RelayAuth Pair SigningKey Key) : Prop :=
  ∀ fromRight fromLeft, (s .left).accepted = some fromRight → fromRight ∈ (s .right).announced →
    (s .right).accepted = some fromLeft → fromLeft ∈ (s .left).announced →
      ∃ key, (s .left).sessionKey = some key ∧ (s .right).sessionKey = some key

/-! ### The key of a session -/

variable {crypto : RelayCrypto Pair Secret SigningKey Key} {options : Side → E2ERelayAuthOptions}

/-- The salt is the digest of the transcript of both parties. -/
lemma deriveRelaySaltHex_eq_some {identityId peerId own peer salt : Utf16} :
    deriveRelaySaltHex crypto identityId peerId own peer = some salt ↔
      identityId ≠ peerId ∧ salt = (fun script : (Utf16 × Utf16) × Utf16 × Utf16 =>
        crypto.sha256Hex (script.1.1 ++ script.1.2 ++ script.2.1 ++ script.2.2))
          (transcript identityId peerId own peer) := by
  unfold deriveRelaySaltHex transcript
  by_cases hsame : identityId = peerId
  · simp [hsame]
  · by_cases hlt : identityId < peerId <;> simp [hsame, hlt, eq_comm]

/-- The key of a session is the session key of the agreement over the transcript of both parties. -/
lemma RelayAuth.Derivation.sessionKey_eq {o : E2ERelayAuthOptions} {s : RelayAuth Pair SigningKey Key}
    {key : Key} {pair : Pair} {localMessage peer : RelayKeyExchangeMessage}
    (h : RelayAuth.Derivation crypto o s key pair localMessage peer) :
    o.identityId ≠ peer.identityId ∧ crypto.agreement.sessionKey
      (fun script => crypto.sha256Hex (script.1.1 ++ script.1.2 ++ script.2.1 ++ script.2.2))
      (fun secret salt => crypto.hkdf secret salt "makaio-e2e-relay-v1")
      o.identityId peer.identityId pair peer.ephemeralPublicKey = some key := by
  obtain ⟨salt, hsalt, hkey⟩ := h.derived
  obtain ⟨hne, rfl⟩ := deriveRelaySaltHex_eq_some.mp hsalt
  rw [deriveE2ESessionKey, h.publicKey] at hkey
  exact ⟨hne, hkey⟩

/-- Two instances that satisfy the invariant agree. -/
theorem agreeOnKey_of_inv {s : Side → RelayAuth Pair SigningKey Key}
    (h : ∀ side, RelayAuth.Inv crypto (options side) (s side)) : AgreeOnKey s := by
  intro fromRight fromLeft hleft hright hright' hleft'
  have hholds : ∀ side, (s side).accepted.isSome = true → ∃ key, (s side).sessionKey = some key :=
    fun side hsome => Option.isSome_iff_exists.mp ((h side).accepted ▸ hsome)
  obtain ⟨key, hkey⟩ := hholds .left (by rw [hleft]; rfl)
  obtain ⟨key', hkey'⟩ := hholds .right (by rw [hright']; rfl)
  obtain ⟨pair, own, peer, hd⟩ := (h .left).backed key hkey
  obtain ⟨pair', own', peer', hd'⟩ := (h .right).backed key' hkey'
  -- what each accepted is what the other derived with
  cases hleft.symm.trans hd.accepted
  cases hright'.symm.trans hd'.accepted
  obtain rfl := hd'.only _ hright
  obtain rfl := hd.only _ hleft'
  obtain ⟨hne, hsession⟩ := hd.sessionKey_eq
  obtain ⟨-, hsession'⟩ := hd'.sessionKey_eq
  rw [hd'.identity, hd'.publicKey, KeyAgreement.sessionKey_comm _ _ _ (hd'.identity ▸ hne),
    ← hd.identity, ← hd.publicKey] at hsession
  exact ⟨key, hkey, hkey'.trans (hsession'.symm.trans hsession)⟩

/-! ### Runs -/

/-- Both instances keep their invariants along orderly runs. -/
lemma inv_of_relayReached {s : Side → RelayAuth Pair SigningKey Key}
    (hs : RelayReached crypto options RelayOrderly s) (side : Side) :
    RelayAuth.Inv crypto (options side) (s side) := by
  refine Reach.invariant (fun s => ∀ side, RelayAuth.Inv crypto (options side) (s side)) ?_ ?_ hs side
  · rintro s rfl side
    exact .new
  · intro s event t hinv horderly hstep side
    unfold relayStep at hstep
    split_ifs at hstep
    obtain ⟨after, hafter, rfl⟩ := Option.map_eq_some_iff.mp hstep
    by_cases hside : side = event.1
    · subst hside
      rw [Function.update_self]
      exact (hinv event.1).step horderly hafter
    · rw [Function.update_of_ne hside]
      exact hinv side

/-- **Agreement of the relay handshake** along every run in which pairs are only generated for tasks of the
current generation that has none.  Every session key was derived from the ephemeral pair that was announced
in the current generation and from a verified exchange of the recorded peer; a task of an older generation
changes neither session key nor peer nor pair nor announced message; and if each side accepted an exchange
that the other announced in its current generation, both hold the same key. -/
theorem relay_handshake_agreement (crypto : RelayCrypto Pair Secret SigningKey Key)
    (options : Side → E2ERelayAuthOptions) (s : Side → RelayAuth Pair SigningKey Key)
    (hs : RelayReached crypto options RelayOrderly s) :
    (∀ side, RelayAuth.Backed crypto (options side) (s side)) ∧
    (∀ event s', RelayOrderly s event → relayStep crypto options s event = some s' →
      RelayAuth.Superseded (s event.1) event.2 →
        RelayAuth.SameSession (s event.1) (s' event.1)) ∧
    AgreeOnKey s := by
  have hinv := inv_of_relayReached hs
  refine ⟨fun side => (hinv side).backed, ?_, agreeOnKey_of_inv hinv⟩
  intro event s' horderly hstep hsuperseded
  unfold relayStep at hstep
  split_ifs at hstep
  obtain ⟨after, hafter, rfl⟩ := Option.map_eq_some_iff.mp hstep
  rw [Function.update_self]
  exact RelayAuth.sameSession_of_superseded horderly hsuperseded hafter

/-! ### Two runs -/

/-- Primitives over numbers: a pair is its own public key, and two of them share their product. -/
def RelayCrypto.products : RelayCrypto UInt16 UInt16 Utf16 (UInt16 × Utf16) where
  agreement :=
    { publicKey := fun pair => [pair]
      shared := fun pair peer => peer.head?.map (pair * ·)
      shared_comm := fun a b => congrArg some (UInt16.mul_comm a b) }
  sha256Hex text := text
  hkdf secret salt _ := (secret, salt)
  verify peerKey signature text := signature == peerKey ++ text

/-- A responder that waits for its peer, and an initiator. -/
def blockingOptions : Side → E2ERelayAuthOptions
  | .left => { identityId := [1], mode := .responder, blocking := true }
  | .right => { identityId := [2], mode := .initiator, blocking := true }

/-- The message of the initiator in both runs. -/
def initiatorMessage : RelayKeyExchangeMessage :=
  { identityId := [2], ephemeralPublicKey := [5], signature := [9, 5, 2] }

/-- The message of the responder with its pair. -/
def responderMessage (pair : UInt16) : RelayKeyExchangeMessage :=
  { identityId := [1], ephemeralPublicKey := [pair], signature := [8, pair, 1] }

/-- The initiator announces itself and waits. -/
def initiatorStarts : List (Side × RelayEvent UInt16 Utf16) :=
  [(.right, .authenticateClient), (.right, .generated 0 5 [9, 5, 2]), (.right, .resume 0 true)]

/-- The initiator receives the message of the responder and derives its key. -/
def initiatorEnds (pair : UInt16) : List (Side × RelayEvent UInt16 Utf16) :=
  [(.right, .handleAuthMessage (responderMessage pair)), (.right, .resume 0 true),
    (.right, .resume 0 true), (.right, .lookedUp 0 (some [8])), (.right, .resume 0 true),
    (.right, .resume 0 true), (.right, .resume 0 true)]

/-- A handshake of one generation on each side. -/
def handshakeRun : List (Side × RelayEvent UInt16 Utf16) :=
  initiatorStarts ++
    [(.left, .authenticateClient), (.left, .handleAuthMessage initiatorMessage), (.left, .resume 0 true),
      (.left, .generated 0 3 [8, 3, 1]), (.left, .resume 0 true), (.left, .lookedUp 0 (some [9])),
      (.left, .resume 0 true), (.left, .resume 0 true), (.left, .resume 0 true)] ++
    initiatorEnds 3

/-- The responder starts again while its first pair is generated, which then replaces the second one
before the key is derived from it. -/
def reconnectRun : List (Side × RelayEvent UInt16 Utf16) :=
  initiatorStarts ++
    [(.left, .authenticateClient), (.left, .handleAuthMessage initiatorMessage), (.left, .resume 0 true),
      (.left, .authenticateClient), (.left, .handleAuthMessage initiatorMessage), (.left, .resume 1 true),
      (.left, .generated 1 3 [8, 3, 1]), (.left, .resume 1 true), (.left, .generated 0 4 [8, 4, 1]),
      (.left, .lookedUp 1 (some [9])), (.left, .resume 1 true), (.left, .resume 1 true),
      (.left, .resume 1 true)] ++
    initiatorEnds 4

instance (s : Side → RelayAuth Pair SigningKey Key) (event : Side × RelayEvent Pair SigningKey) :
    Decidable (RelayOrderly s event) := by
  unfold RelayOrderly
  infer_instance

/-- A handshake of one generation is orderly, and both sides hold the key it agrees on. -/
theorem relay_handshake_agreement_single : ∃ s, RelayReached .products blockingOptions RelayOrderly s ∧
    AgreeOnKey s ∧ (∀ side, (s side).sessionKey = some (15, [1, 2, 3, 5])) := by
  have hends : (runGuarded (relayStep RelayCrypto.products blockingOptions) RelayOrderly
      (fun _ => .new) handshakeRun).map (fun s => ((s .left).sessionKey, (s .right).sessionKey)) =
        some (some (15, [1, 2, 3, 5]), some (15, [1, 2, 3, 5])) := by decide +kernel
  obtain ⟨s, hrun, hkeys⟩ := Option.map_eq_some_iff.mp hends
  have hstart : RelayReached RelayCrypto.products blockingOptions RelayOrderly fun _ => .new := .start rfl
  have hreached := Reach.of_runGuarded handshakeRun hstart hrun
  exact ⟨s, hreached, (relay_handshake_agreement _ _ s hreached).2.2, fun side => by
    cases side
    · exact congrArg Prod.fst hkeys
    · exact congrArg Prod.snd hkeys⟩

/-- Without the condition, two instances that accepted what the other announced hold different keys. -/
theorem not_relay_handshake_agreement :
    ¬ ∀ s, RelayReached RelayCrypto.products blockingOptions (fun _ _ => True) s → AgreeOnKey s := by
  intro h
  have hends : (runGuarded (relayStep RelayCrypto.products blockingOptions) (fun _ _ => True)
      (fun _ => .new) reconnectRun).any (fun s => decide (
        ((s .left).accepted = some initiatorMessage ∧ initiatorMessage ∈ (s .right).announced) ∧
        ((s .right).accepted = some (responderMessage 4) ∧
          responderMessage 4 ∈ (s .left).announced) ∧
        (s .left).sessionKey = some (20, [1, 2, 3, 5]) ∧
        (s .right).sessionKey = some (20, [1, 2, 4, 5]))) = true := by
    decide +kernel
  obtain ⟨s, hrun, hs⟩ := (Option.any_eq_true _ _).mp hends
  obtain ⟨hleft, hright, hkeyLeft, hkeyRight⟩ := of_decide_eq_true hs
  have hstart : RelayReached RelayCrypto.products blockingOptions (fun _ _ => True) fun _ => .new :=
    .start rfl
  have hreached := Reach.of_runGuarded reconnectRun hstart hrun
  obtain ⟨key, hkey, hkey'⟩ := h s hreached _ _ hleft.1 hleft.2 hright.1 hright.2
  rw [hkeyLeft] at hkey
  rw [hkeyRight] at hkey'
  cases hkey
  cases hkey'

end Makaio.E2E
