import Mathlib.Data.List.Basic

set_option autoImplicit false

/-!
# Ideal authenticated ciphers

A cipher with nonces that is ideal in the usual sense: what decrypts under a key was encrypted under that
key, and decrypts to what was encrypted.

## Main definitions

* `AuthenticatedCipher` — a cipher with the encryptions that were made.
* `AuthenticatedCipher.tagged` — the cipher whose ciphertexts are the plaintexts with a tag of
  the key and the nonce, over a record of the encryptions made.
-/

namespace Foundations

/-- A cipher, with the encryptions that were made under each key. -/
structure AuthenticatedCipher (Key : Type) where
  encrypt : Key → List UInt8 → List UInt8 → List UInt8
  decrypt : Key → List UInt8 → List UInt8 → Option (List UInt8)
  /-- A plaintext was encrypted under a key with a nonce. -/
  Made : Key → List UInt8 → List UInt8 → Prop
  /-- Exactly the ciphertexts of encryptions that were made decrypt. -/
  decrypt_iff : ∀ key nonce ciphertext plaintext, decrypt key nonce ciphertext = some plaintext ↔
    Made key nonce plaintext ∧ ciphertext = encrypt key nonce plaintext
  /-- A ciphertext carries a tag. -/
  length_encrypt : ∀ key nonce plaintext, plaintext.length < (encrypt key nonce plaintext).length

namespace AuthenticatedCipher

variable {Key : Type} (cipher : AuthenticatedCipher Key)
variable {key : Key} {nonce plaintext : List UInt8}

/-- An encryption that was made is decrypted. -/
lemma decrypt_encrypt (h : cipher.Made key nonce plaintext) :
    cipher.decrypt key nonce (cipher.encrypt key nonce plaintext) = some plaintext :=
  (cipher.decrypt_iff _ _ _ _).mpr ⟨h, rfl⟩

/-- What decrypts was encrypted. -/
lemma made_of_decrypt {ciphertext : List UInt8} (h : cipher.decrypt key nonce ciphertext = some plaintext) :
    cipher.Made key nonce plaintext :=
  ((cipher.decrypt_iff _ _ _ _).mp h).1

/-- The cipher over a record of encryptions whose ciphertexts are the plaintexts with the key and the
nonce as their tag. -/
def tagged (made : List (UInt8 × List UInt8 × List UInt8)) : AuthenticatedCipher UInt8 where
  encrypt key nonce plaintext := plaintext ++ key :: nonce
  decrypt key nonce ciphertext :=
    let plaintext := ciphertext.take (ciphertext.length - (nonce.length + 1))
    if (key, nonce, plaintext) ∈ made ∧ ciphertext = plaintext ++ key :: nonce then some plaintext
    else none
  Made key nonce plaintext := (key, nonce, plaintext) ∈ made
  decrypt_iff key nonce ciphertext plaintext := by
    rw [Option.ite_none_right_eq_some, Option.some.injEq]
    constructor
    · rintro ⟨⟨hmade, hcipher⟩, hplain⟩
      rw [hplain] at hmade hcipher
      exact ⟨hmade, hcipher⟩
    · rintro ⟨hmade, rfl⟩
      simp [hmade]
  length_encrypt key nonce plaintext := by simp

end AuthenticatedCipher

end Foundations
