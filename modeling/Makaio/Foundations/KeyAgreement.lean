import Mathlib.Order.Defs.LinearOrder

set_option autoImplicit false

/-!
# Key agreement between named parties

A Diffie–Hellman agreement, and the keys that two named parties derive from it over a transcript of both
names and both public keys.  The transcript is sorted by name, so that both parties write the same one.

## Main definitions

* `KeyAgreement` — pairs, their public keys, and the secret of a pair and a public key.
* `transcript` — the names and public keys of both parties in the order of the names.
* `KeyAgreement.sessionKey` — the key derived from the secret and a digest of the transcript.

## Main results

* `transcript_comm` — two parties of different names write one transcript.
* `KeyAgreement.sessionKey_comm` — and derive one key.
-/

namespace Foundations

variable {Name Pair Public Secret Digest Key : Type*} [LT Name] [DecidableLT Name]

/-- The names and public keys of two parties in the order of the names. -/
def transcript (name other : Name) (own peer : Public) :
    (Name × Name) × Public × Public :=
  if name < other then ((name, other), own, peer) else ((other, name), peer, own)

/-- Parties of different names write the same transcript, if names are ordered strictly and totally. -/
theorem transcript_comm [Std.Asymm fun a b : Name => a < b] [Std.Trichotomous fun a b : Name => a < b]
    {name other : Name} (h : name ≠ other) (own peer : Public) :
    transcript name other own peer = transcript other name peer own := by
  unfold transcript
  by_cases hlt : name < other
  · rw [if_pos hlt, if_neg (Std.Asymm.asymm _ _ hlt)]
  · have hgt : other < name := by
      by_contra hgt
      exact h (Std.Trichotomous.trichotomous name other hlt hgt)
    rw [if_neg hlt, if_pos hgt]

/-- A key agreement: a pair and a public key share a secret, unless the public key is no valid one, and two
pairs share the same secret from both sides. -/
structure KeyAgreement (Pair Public Secret : Type*) where
  publicKey : Pair → Public
  shared : Pair → Public → Option Secret
  shared_comm : ∀ a b, shared a (publicKey b) = shared b (publicKey a)

namespace KeyAgreement

variable (agreement : KeyAgreement Pair Public Secret)
  (digest : (Name × Name) × Public × Public → Digest) (derive : Secret → Digest → Key)

/-- The key that a party derives from its pair and the public key of its peer. -/
def sessionKey (name other : Name) (pair : Pair) (peer : Public) : Option Key :=
  (agreement.shared pair peer).map fun secret =>
    derive secret (digest (transcript name other (agreement.publicKey pair) peer))

/-- **Two parties of different names derive the same key** from each other's public keys. -/
theorem sessionKey_comm [Std.Asymm fun a b : Name => a < b]
    [Std.Trichotomous fun a b : Name => a < b] {name other : Name} (h : name ≠ other) (pair pair' : Pair) :
    agreement.sessionKey digest derive name other pair (agreement.publicKey pair') =
      agreement.sessionKey digest derive other name pair' (agreement.publicKey pair) := by
  rw [sessionKey, sessionKey, agreement.shared_comm, transcript_comm h]

end KeyAgreement

end Foundations
