import Makaio.E2E.MessageCrypto

set_option autoImplicit false

/-!
# The end-to-end encrypted transport

The transport of `create-e2e-transport.ts` encrypts the fields of what it sends, and transforms what it
receives before anything observes it: once there is a session key, a message that is not marked as
encrypted is rejected, and a marked one is decrypted.  A field that is no string, or that the type of the
message has no use for, is not decrypted; it is delivered as it came.

## Main definitions

* `messageTransform` — what the transport makes of a received message.
* `NoInjection` — what it delivers was encrypted.

## Main results

* `noInjection_iff` — the frames that inject nothing.
-/

namespace Makaio.E2E

open Foundations

variable {Key : Type} (cipher : AuthenticatedCipher Key) (format : NumberFormat)

def isSubscriptionAckMessage (message : Members) : Bool :=
  typeOf message = some "subscription-ack" && ((Json.lookup "ackId" message).bind Json.str?).isSome

/-- The `messageTransform` of `createE2ETransport`; `none` when it throws. -/
def messageTransform (sessionKey : Option Key) (message : Members) : Option Members :=
  match sessionKey with
  | none => some message
  | some sessionKey =>
    if isSubscriptionAckMessage message then some message
    else if !isMarked message then none
    else decryptMessage cipher format sessionKey message

variable {message out : Members} {field : Field}

/-- A marked message that is no acknowledgement is decrypted. -/
lemma messageTransform_marked {sessionKey : Key} (hack : isSubscriptionAckMessage message = false)
    (hmarked : isMarked message = true) :
    messageTransform cipher format (some sessionKey) message =
      decryptMessage cipher format sessionKey message := by
  simp [messageTransform, hack, hmarked]

/-- The fields of a decrypted message are those that came, but for the texts. -/
lemma of_decryptMessage {sessionKey : Key} (hmarked : isMarked message = true)
    (hout : decryptMessage cipher format sessionKey message = some out)
    (htext : contentText message field = none) : field.of out = field.of message := by
  obtain ⟨nonce, -, -, hleft⟩ := decryptMessage_eq_some cipher format sessionKey hmarked hout
  have hkey : ∀ other, contentText message other ≠ none → field.key ≠ other.key := by
    intro other hother heq
    rw [← Field.key_injective heq] at hother
    exact hother htext
  rw [Field.of, hleft _ hkey, if_neg field.key_ne_e2e, Field.of]

/-- A decrypted message has the type that came. -/
lemma typeOf_decryptMessage {sessionKey : Key} (hmarked : isMarked message = true)
    (hout : decryptMessage cipher format sessionKey message = some out) :
    typeOf out = typeOf message := by
  obtain ⟨nonce, -, -, hleft⟩ := decryptMessage_eq_some cipher format sessionKey hmarked hout
  rw [typeOf, hleft "type" fun field _ => field.key_ne_type.symm, if_neg (by decide), typeOf]

/-! ### Injection -/

variable (sessionKey : Key)

/-- A frame injects nothing: if a message is delivered that is no acknowledgement, then it has a field
with a value, and all such values were encrypted under the session key. -/
def NoInjection (frame : Members) : Prop :=
  ∀ message, messageTransform cipher format (some sessionKey) frame = some message →
    typeOf message ≠ some "subscription-ack" →
    (∃ (field : Field) (value : Json), field.of message = some value) ∧
      ∀ (field : Field) (value : Json), field.of message = some value →
        Authentic cipher format sessionKey value

/-- A field that is decrypted is there. -/
lemma of_isSome_of_contentText {text : String} (h : contentText message field = some text) :
    field.of message = some (.str text) := by
  unfold contentText at h
  split_ifs at h
  obtain ⟨value, hvalue, hstr⟩ := Option.bind_eq_some_iff.mp h
  cases value with
  | str s => rw [hvalue, Option.some.inj hstr]
  | _ => cases hstr

/-- **When a frame injects nothing**: exactly when it is an acknowledgement, or is rejected for want of a
marker, of a nonce or of a ciphertext under the session key, or has a field, and every field is a text that
is decrypted or has a value that was encrypted anyway.

**Proof sketch.** A delivered message has the texts of the frame opened, hence authentic, and its other
fields as they came.  So only these may be injected, and a message without fields has nothing that is
authentic. -/
theorem noInjection_iff (frame : Members) :
    NoInjection cipher format sessionKey frame ↔
      typeOf frame = some "subscription-ack" ∨ isMarked frame = false ∨ nonceOf frame = none ∨
        (∃ nonce field text, nonceOf frame = some nonce ∧ contentText frame field = some text ∧
          openText cipher format sessionKey nonce text = none) ∨
        ((∃ (field : Field) (value : Json), field.of frame = some value) ∧
          ∀ (field : Field) (value : Json), field.of frame = some value →
            contentText frame field = none → Authentic cipher format sessionKey value) := by
  by_cases htype : typeOf frame = some "subscription-ack"
  · refine ⟨fun _ => .inl htype, fun _ message hmessage hother => ?_⟩
    exfalso
    unfold messageTransform at hmessage
    split_ifs at hmessage with hack hmarked
    · cases hmessage
      exact hother htype
    · rw [Bool.not_eq_true, Bool.not_eq_false'] at hmarked
      exact hother ((typeOf_decryptMessage cipher format hmarked hmessage).trans htype)
  have hack : isSubscriptionAckMessage frame = false := by simp [isSubscriptionAckMessage, htype]
  cases hmarked : isMarked frame with
  | false =>
    refine ⟨fun _ => .inr (.inl rfl), fun _ message hmessage => ?_⟩
    simp [messageTransform, hack, hmarked] at hmessage
  | true =>
    rw [NoInjection, messageTransform_marked cipher format hack hmarked]
    have hsome := decryptMessage_ne_none cipher format sessionKey frame hmarked
    cases hout : decryptMessage cipher format sessionKey frame with
    | none =>
      refine ⟨fun _ => ?_, fun _ message hmessage => by cases hmessage⟩
      rw [hout] at hsome
      cases hnonce : nonceOf frame with
      | none => exact .inr (.inr (.inl rfl))
      | some nonce =>
        refine .inr (.inr (.inr (.inl ?_)))
        by_contra hcon
        push Not at hcon
        exact hsome.mpr ⟨nonce, hnonce, fun field text htext => hcon nonce field text rfl htext⟩ rfl
    | some out =>
      obtain ⟨nonce, hnonce, hopened, -⟩ := decryptMessage_eq_some cipher format sessionKey hmarked hout
      have hleft : ∀ field : Field, contentText frame field = none → field.of out = field.of frame :=
        fun field => of_decryptMessage cipher format hmarked hout
      have hfields : ∀ field : Field, (∃ value, field.of out = some value) ↔
          ∃ value, field.of frame = some value := by
        intro field
        cases hcontent : contentText frame field with
        | none => rw [hleft field hcontent]
        | some text =>
          obtain ⟨value, -, hvalue⟩ := hopened field text hcontent
          exact ⟨fun _ => ⟨_, of_isSome_of_contentText hcontent⟩, fun _ => ⟨value, hvalue⟩⟩
      constructor
      · intro h
        obtain ⟨hfield, hauthentic⟩ :=
          h out rfl (by rwa [typeOf_decryptMessage cipher format hmarked hout])
        refine .inr (.inr (.inr (.inr ⟨?_, fun field value hvalue hcontent => ?_⟩)))
        · obtain ⟨field, hvalue⟩ := hfield
          exact ⟨field, (hfields field).mp hvalue⟩
        · exact hauthentic field value (by rw [hleft field hcontent, hvalue])
      · rintro (h | h | h | ⟨nonce', field, text, hnonce', hcontent, hclosed⟩ | ⟨hfield, hauthentic⟩)
          message hmessage -
        · exact absurd h htype
        · cases h
        · rw [hnonce] at h
          cases h
        · obtain rfl : nonce = nonce' := Option.some.inj (hnonce.symm.trans hnonce')
          obtain ⟨value, hopen, -⟩ := hopened field text hcontent
          rw [hclosed] at hopen
          cases hopen
        · cases hmessage
          refine ⟨?_, fun field value hvalue => ?_⟩
          · obtain ⟨field, hvalue⟩ := hfield
            exact ⟨field, (hfields field).mpr hvalue⟩
          · cases hcontent : contentText frame field with
            | none => exact hauthentic field value (by rw [← hleft field hcontent, hvalue]) hcontent
            | some text =>
              obtain ⟨value', hopen, hvalue'⟩ := hopened field text hcontent
              obtain rfl : value = value' := Option.some.inj (hvalue.symm.trans hvalue')
              exact authentic_of_openText cipher format sessionKey hopen

/-- An event with a marker but no ciphertext. -/
def forged : Members :=
  [("type", .str "event"), ("subject", .str "s"), ("payload", .bool true),
    ("e2e", .obj [("nonce", .str "")])]

/-- The payload of a forged event is delivered although nothing was ever encrypted. -/
theorem not_noInjection : ¬∀ (cipher : AuthenticatedCipher UInt8) (format : NumberFormat)
    (sessionKey : UInt8) (frame : Members), NoInjection cipher format sessionKey frame := by
  intro h
  obtain ⟨-, hauthentic⟩ := h (.tagged []) .plain 0 forged
    [("type", .str "event"), ("subject", .str "s"), ("payload", .bool true)] rfl (by decide)
  obtain ⟨nonce, plaintext, hmade, -⟩ := hauthentic .payload (.bool true) rfl
  exact absurd hmade (by simp [AuthenticatedCipher.tagged])

end Makaio.E2E
