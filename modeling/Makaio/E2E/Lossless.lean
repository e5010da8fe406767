import Makaio.E2E.Transport

set_option autoImplicit false

/-!
# What encryption keeps and hides

A message that has one of the encrypted fields is received as it was sent, and its field is hidden.  A
message without such a field is not marked as encrypted, so that the peer rejects it; in a response with a
result and an error only the error is encrypted.

## Main definitions

* `BusMessage` — the messages that carry requests, events, broadcasts and their responses.
* `Lossless`, `Hidden` — the peer receives the message, and its fields are not sent
  in clear.

## Main results

* `lossless_and_hidden_iff` — when both hold.
-/

namespace Makaio.E2E

open Foundations

/-! ### Messages -/

/-- Whether messages of a type have a field. -/
def belongs (message : Members) : Field → Bool
  | .payload => typeOf message ∈ [some "request", some "event", some "broadcast"]
  | .result => typeOf message = some "response"
  | .results => typeOf message = some "broadcast-response"
  | .error => isResponse message

/-- A request, an event, a broadcast, or a response to one, with the fields of its type. -/
structure BusMessage where
  members : Members
  type_mem : typeOf members ∈
    [some "request", some "event", some "broadcast", some "response", some "broadcast-response"]
  belongs_of : ∀ (field : Field), (field.of members).isSome → belongs members field = true
  unmarked : Json.lookup "e2e" members = none

/-- A frame of the type of a message is no acknowledgement. -/
lemma BusMessage.isSubscriptionAckMessage_eq_false (message : BusMessage) {frame : Members}
    (htype : typeOf frame = typeOf message.members) : isSubscriptionAckMessage frame = false := by
  have hne : typeOf message.members ≠ some "subscription-ack" := by
    intro heq
    have hmem := message.type_mem
    rw [heq] at hmem
    simp at hmem
  simp [isSubscriptionAckMessage, htype, hne]

variable {field : Field} {message received : Members}

/-- A field that messages of a type have is decrypted in them. -/
lemma isDecrypted_of_belongs (h : belongs message field = true) :
    isDecrypted message field = true := by
  cases field <;> first | rfl | exact h

/-- A field that messages of a type have is encrypted if it is the only one. -/
lemma isEncrypted_of_only (h : belongs message field = true) (hsome : (field.of message).isSome)
    (honly : ∀ other : Field, (other.of message).isSome → other = field) :
    isEncrypted message field = true := by
  have herror : field ≠ .error → (Field.error.of message).isNone = true := by
    intro hne
    rw [Option.isNone_iff_eq_none, ← Option.not_isSome_iff_eq_none]
    exact fun h => hne (honly .error h).symm
  cases field with
  | payload => simp [isEncrypted, hsome]
  | result =>
    have htype : typeOf message = some "response" := by simpa [belongs] using h
    simp [isEncrypted, hsome, htype, herror (by decide)]
  | results =>
    have htype : typeOf message = some "broadcast-response" := by simpa [belongs] using h
    simp [isEncrypted, hsome, htype, herror (by decide)]
  | error =>
    have htype : isResponse message = true := h
    simp [isEncrypted, hsome, htype]

/-- Of two fields of a message, one is not encrypted. -/
lemma exists_not_isEncrypted {f g : Field} (hf : belongs message f = true) (hg : belongs message g = true)
    (hfsome : (f.of message).isSome) (hgsome : (g.of message).isSome) (hne : f ≠ g) :
    ∃ field : Field, (field.of message).isSome ∧ isEncrypted message field = false := by
  have herror : ∀ field : Field, field = .result ∨ field = .results → (field.of message).isSome →
      (Field.error.of message).isSome →
      ∃ field : Field, (field.of message).isSome ∧ isEncrypted message field = false := by
    intro field hfield hsome herrorSome
    have hnone : (Field.error.of message).isNone = false := by
      rw [← Option.not_isSome, herrorSome, Bool.not_true]
    refine ⟨field, hsome, ?_⟩
    rcases hfield with rfl | rfl <;> simp [isEncrypted, hnone]
  cases f <;> cases g <;> first
    | exact absurd rfl hne
    | exact herror _ (by decide) hfsome hgsome
    | exact herror _ (by decide) hgsome hfsome
    | (simp only [belongs, isResponse, decide_eq_true_eq, Bool.or_eq_true, List.mem_cons,
        List.not_mem_nil, or_false] at hf hg
       grind)

/-! ### Sending -/

variable {Key : Type} (cipher : AuthenticatedCipher Key) (format : NumberFormat) (sessionKey : Key)
  (nonces : Field → List UInt8)

/-- What the peer reads of a message that is written as JSON. -/
def transmit (message : Members) : Option Members :=
  (Json.parse format (Json.print format (.obj message))).bind Json.members?

/-- The message that the peer's transform delivers is the message after a round trip through JSON. -/
def Lossless (message : BusMessage) : Prop :=
  ∃ received expected,
    (transmit format (encryptMessage cipher format sessionKey nonces message.members)).bind
      (messageTransform cipher format (some sessionKey)) = some received ∧
    transmit format message.members = some expected ∧
    ∀ key, Json.lookup key received = Json.lookup key expected

/-- Every field of the message is sent as a ciphertext of its value and not as its value. -/
def Hidden (message : BusMessage) : Prop :=
  ∀ (field : Field) (value : Json), field.of message.members = some value →
    let sent := field.of (encryptMessage cipher format sessionKey nonces message.members)
    (∃ nonce, sent = some (.str (sealText cipher format sessionKey nonce value))) ∧ sent ≠ some value

/-- The peer reads the members with normalized values. -/
lemma transmit_eq (message : Members) :
    transmit format message = some (Json.collect (Json.normalizeMembers message)) := by
  rw [transmit, Json.parse_print]
  rfl

/-- The members that the peer reads. -/
lemma lookup_transmit (h : transmit format message = some received) (key : String) :
    Json.lookup key received = (Json.lookup key message).map Json.normalize := by
  rw [transmit_eq] at h
  rw [← Option.some.inj h, Json.lookup_collect, Json.lookup_normalizeMembers]

/-- The type that the peer reads. -/
lemma typeOf_transmit (h : transmit format message = some received) :
    typeOf received = typeOf message := by
  rw [typeOf, typeOf, lookup_transmit format h]
  cases Json.lookup "type" message with
  | none => rfl
  | some value => cases value <;> rfl

lemma typeOf_encryptMessage (message : Members) :
    typeOf (encryptMessage cipher format sessionKey nonces message) = typeOf message := by
  rw [typeOf, lookup_encryptMessage_other cipher format sessionKey nonces message (by decide)
    fun field => field.key_ne_type.symm, typeOf]

/-- A marker is read as it was made. -/
lemma marker_transmit {nonce : List UInt8} (h : transmit format message = some received)
    (hmarker : Json.lookup "e2e" message = some (metadata nonce)) :
    isMarked received = true ∧ nonceOf received = some nonce := by
  have hlookup := lookup_transmit format h "e2e"
  rw [hmarker] at hlookup
  constructor
  · rw [isMarked, hlookup]
    rfl
  · have hnonce : ((metadata nonce).normalize).member? "nonce" =
        some (.str (Base64Url.toBase64Url nonce)) := by
      simp [metadata, Json.normalize, Json.member?, Json.normalizeMembers]
    rw [nonceOf, hlookup, Option.map_some, Option.bind_some, hnonce, Option.bind_some, Json.str?,
      Option.bind_some, Base64Url.fromBase64Url_toBase64Url]

/-- A message with one field is received as it was sent. -/
lemma lossless_of_only (message : BusMessage) {value : Json} (hvalue : field.of message.members = some value)
    (honly : ∀ other : Field, (other.of message.members).isSome → other = field)
    (hmade : Sealed cipher format sessionKey (nonces field) value) :
    Lossless cipher format sessionKey nonces message := by
  have hsome : (field.of message.members).isSome := by rw [hvalue]; rfl
  have hbelongs := message.belongs_of field hsome
  have hencrypted := isEncrypted_of_only hbelongs hsome honly
  have hmarker := lookup_encryptMessage_marker cipher format sessionKey nonces message.members
    hencrypted fun other hother => honly other (by simp [isEncrypted] at hother; exact hother.1)
  obtain ⟨sent, hsent⟩ : ∃ sent, sent = encryptMessage cipher format sessionKey nonces message.members :=
    ⟨_, rfl⟩
  rw [← hsent] at hmarker
  have htransmit := transmit_eq format sent
  obtain ⟨received, hreceived⟩ : ∃ received, transmit format sent = some received := ⟨_, htransmit⟩
  obtain ⟨hmarked, hnonce⟩ := marker_transmit format hreceived hmarker
  have htype : typeOf received = typeOf message.members := by
    rw [typeOf_transmit format hreceived, hsent, typeOf_encryptMessage]
  have hack := message.isSubscriptionAckMessage_eq_false htype
  have hdecrypted : isDecrypted received field = isDecrypted message.members field := by
    cases field <;> simp [isDecrypted, isResponse, htype]
  have htext : contentText received field =
      some (sealText cipher format sessionKey (nonces field) value) := by
    have hof := lookup_encryptMessage cipher format sessionKey nonces message.members field
    rw [if_pos hencrypted, hvalue, ← hsent] at hof
    rw [contentText, hdecrypted, isDecrypted_of_belongs hbelongs, if_pos rfl, Field.of,
      lookup_transmit format hreceived, ← Field.of, hof]
    rfl
  have hother : ∀ other : Field, other ≠ field → contentText received other = none := by
    intro other hne
    have hnone : other.of message.members = none :=
      Option.not_isSome_iff_eq_none.mp fun h => hne (honly other h)
    have hof := lookup_encryptMessage cipher format sessionKey nonces message.members other
    rw [if_neg (by simp [isEncrypted, hnone]), hnone, ← hsent] at hof
    rw [contentText, Field.of, lookup_transmit format hreceived, ← Field.of, hof]
    split <;> rfl
  have hopen := openText_sealText cipher format sessionKey hmade
  obtain ⟨out, hout⟩ := Option.ne_none_iff_exists'.mp
    ((decryptMessage_ne_none cipher format sessionKey received hmarked).mpr
      ⟨nonces field, hnonce, fun other text h => by
        by_cases hne : other = field
        · rw [hne, htext] at h
          rw [← Option.some.inj h, hopen]
          simp
        · rw [hother other hne] at h
          cases h⟩)
  refine ⟨out, _, ?_, transmit_eq format message.members, fun key => ?_⟩
  · rw [← hsent, hreceived, Option.bind_some, messageTransform_marked cipher format hack hmarked, hout]
  · obtain ⟨nonce, hnonce', hopened, hleft⟩ :=
      decryptMessage_eq_some cipher format sessionKey hmarked hout
    obtain rfl : nonces field = nonce := Option.some.inj (hnonce.symm.trans hnonce')
    rw [Json.lookup_collect, Json.lookup_normalizeMembers]
    by_cases hkey : key = field.key
    · obtain ⟨value', hopen', hvalue'⟩ := hopened field _ htext
      obtain rfl : value.normalize = value' := Option.some.inj (hopen.symm.trans hopen')
      rw [hkey, ← Field.of, hvalue', ← Field.of, hvalue]
      rfl
    · rw [hleft key fun other h heq => ?_]
      · by_cases he2e : key = "e2e"
        · rw [if_pos he2e, he2e, message.unmarked]
          rfl
        · rw [if_neg he2e, lookup_transmit format hreceived, hsent]
          by_cases hfield : ∃ other : Field, key = other.key
          · obtain ⟨other, rfl⟩ := hfield
            have hnone : other.of message.members = none :=
              Option.not_isSome_iff_eq_none.mp fun h => hkey (congrArg _ (honly other h))
            rw [← Field.of, lookup_encryptMessage, if_neg (by simp [isEncrypted, hnone]), Field.of]
          · push Not at hfield
            rw [lookup_encryptMessage_other cipher format sessionKey nonces _ he2e hfield]
      · by_cases hne : other = field
        · exact hkey (heq.trans (congrArg _ hne))
        · exact h (hother other hne)

/-- **When a message is received as it was sent and its fields are hidden**: exactly when one of the four
fields is there, and no other.

**Proof sketch.** A message without such a field is sent without a marker and rejected.  Of two fields one
is sent as it is.  The only field of a message is encrypted, under the nonce of the marker, and is longer
than its value. -/
theorem lossless_and_hidden_iff (message : BusMessage)
    (hmade : ∀ (field : Field) (value : Json), isEncrypted message.members field = true →
      field.of message.members = some value → Sealed cipher format sessionKey (nonces field) value) :
    Lossless cipher format sessionKey nonces message ∧ Hidden cipher format sessionKey nonces message ↔
      ∃! field : Field, (field.of message.members).isSome := by
  constructor
  · rintro ⟨⟨received, expected, hreceived, -⟩, hhidden⟩
    have hencrypted : ∀ field : Field, (field.of message.members).isSome →
        isEncrypted message.members field = true := by
      intro field hsome
      obtain ⟨value, hvalue⟩ := Option.isSome_iff_exists.mp hsome
      by_contra hcon
      refine (hhidden field value hvalue).2 ?_
      rw [lookup_encryptMessage, if_neg hcon, hvalue]
    have hexists : ∃ field : Field, (field.of message.members).isSome := by
      by_contra hnone
      push Not at hnone
      have hunencrypted : ∀ field, isEncrypted message.members field = false := by
        intro field
        simp [isEncrypted, Option.not_isSome_iff_eq_none.mp (hnone field)]
      obtain ⟨frame, hframe, htransform⟩ := Option.bind_eq_some_iff.mp hreceived
      have htype : typeOf frame = typeOf message.members := by
        rw [typeOf_transmit format hframe, typeOf_encryptMessage]
      have hunmarked : isMarked frame = false := by
        rw [isMarked, lookup_transmit format hframe,
          lookup_encryptMessage_unmarked cipher format sessionKey nonces _ hunencrypted,
          message.unmarked]
        rfl
      have hack := message.isSubscriptionAckMessage_eq_false htype
      simp [messageTransform, hack, hunmarked] at htransform
    obtain ⟨field, hsome⟩ := hexists
    refine ⟨field, hsome, fun other hother => ?_⟩
    by_contra hne
    obtain ⟨clear, hclear, hnot⟩ := exists_not_isEncrypted (message.belongs_of _ hother)
      (message.belongs_of _ hsome) hother hsome hne
    rw [hencrypted clear hclear] at hnot
    cases hnot
  · rintro ⟨field, hsome, honly⟩
    obtain ⟨value, hvalue⟩ := Option.isSome_iff_exists.mp hsome
    have hencrypted := isEncrypted_of_only (message.belongs_of _ hsome) hsome honly
    refine ⟨lossless_of_only cipher format sessionKey nonces message hvalue honly
      (hmade field value hencrypted hvalue), fun other value' hvalue' => ?_⟩
    obtain rfl : other = field := honly other (by simp [hvalue'])
    rw [lookup_encryptMessage, if_pos hencrypted, hvalue', Option.map_some]
    exact ⟨⟨_, rfl⟩, fun heq => sealText_ne cipher format sessionKey _ _ (Option.some.inj heq)⟩

/-- An event. -/
def greeting : BusMessage where
  members := [("type", .str "event"), ("subject", .str "s"), ("payload", .str "hi")]
  type_mem := by decide
  belongs_of := by
    intro field
    cases field <;> decide
  unmarked := rfl

/-- The event is received as it was sent, and its payload is hidden. -/
theorem lossless_and_hidden_greeting :
    Lossless (.tagged [(0, [1], encodeText (Json.print .plain (.str "hi")))]) .plain 0 (fun _ => [1])
        greeting ∧
      Hidden (.tagged [(0, [1], encodeText (Json.print .plain (.str "hi")))]) .plain 0 (fun _ => [1])
        greeting := by
  refine (lossless_and_hidden_iff _ .plain 0 (fun _ => [1]) greeting fun field value _ hvalue => ?_).mpr
    ⟨.payload, rfl, fun field => by cases field <;> decide⟩
  cases field with
  | payload =>
    cases hvalue
    simp [Sealed, AuthenticatedCipher.tagged]
  | _ => cases hvalue

/-- A response without a result, as a handler that returns nothing gives it. -/
def acknowledged : BusMessage where
  members := [("type", .str "response"), ("correlationId", .str "c")]
  type_mem := by decide
  belongs_of := by
    intro field
    cases field <;> decide
  unmarked := rfl

/-- A response without a result is rejected. -/
theorem not_lossless_and_hidden : ¬∀ (cipher : AuthenticatedCipher UInt8) (format : NumberFormat)
    (sessionKey : UInt8) (nonces : Field → List UInt8) (message : BusMessage),
    (∀ (field : Field) (value : Json), field.of message.members = some value →
      Sealed cipher format sessionKey (nonces field) value) →
    Lossless cipher format sessionKey nonces message ∧
      Hidden cipher format sessionKey nonces message := by
  intro h
  obtain ⟨⟨received, -, hreceived, -⟩, -⟩ := h (.tagged []) .plain 0 (fun _ => []) acknowledged
    (fun field value hvalue => by cases field <;> cases hvalue)
  have hnone : ((transmit .plain (encryptMessage (.tagged []) .plain 0 (fun _ => [])
      acknowledged.members)).bind (messageTransform (.tagged []) .plain (some 0))).isNone = true := by
    decide +kernel
  rw [hreceived] at hnone
  cases hnone

end Makaio.E2E
